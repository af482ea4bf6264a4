import Launcher.Proofs.Launch.Runs
import Launcher.Spec.Open
/-!
# Streams that are made one after the other

The three streams of a process are made in their order, by duplicating files or by opening them.
When one cannot be made, those before it are closed again.

## Main definitions

* `Launcher.Launch.makeStreams` — streams by three dialogues that make one each.
* `Launcher.Launch.files` — the open files of some redirects.

## Main results

* `Launcher.Launch.run_makeStreams` — the four ways in which this can go.
* `Launcher.Launch.run_closeAll` — what is closed.
-/

namespace Launcher.Launch

open Host Host.Dialogue

variable {ε : Type} {rs : List Redirect} {trace : List Exchange}

/-! ## Closing -/

/-- The open files of some redirects. -/
def files (rs : List Redirect) : List Descriptor :=
  rs.filterMap Redirect.descriptor?

/-- The exchange that closes a descriptor. -/
def closing (d : Descriptor) : Exchange := ⟨.close d, ()⟩

/-- No redirect leads to no file. -/
@[simp]
lemma files_nil : files [] = [] := rfl

/-- The files of redirects one after another stand one after another. -/
@[simp]
lemma files_append (rs rs' : List Redirect) : files (rs ++ rs') = files rs ++ files rs' :=
  List.filterMap_append

/-- Closing redirects closes their files, in their order. -/
lemma run_closeAll (run : Run (closeAll rs) trace ()) : trace = (files rs).map closing := by
  induction rs generalizing trace with
  | nil => exact (run_pure_iff.1 run).1
  | cons r rs ih =>
    cases r with
    | inherit => exact ih run
    | discard => exact ih run
    | file d =>
      obtain ⟨_, rest, hrest, rfl⟩ := run_call_seq_iff.1 run
      rw [ih hrest]
      rfl

/-! ## Making -/

/-- The streams by three dialogues, up to the first that fails. -/
def makeStreams (makeIn makeOut makeErr : Dialogue (Except ε Redirect)) :
    Dialogue (Except ε Streams) := do
  match ← makeIn with
  | .error e => pure (.error e)
  | .ok stdin =>
    match ← makeOut with
    | .error e =>
      closeAll [stdin]
      pure (.error e)
    | .ok stdout =>
      match ← makeErr with
      | .error e =>
        closeAll [stdin, stdout]
        pure (.error e)
      | .ok stderr => pure (.ok { stdin, stdout, stderr })

/-- Duplicating three streams is making them one by one. -/
lemma duplicateStreams_eq (s : Streams) :
    duplicateStreams s = makeStreams (duplicate s.stdin) (duplicate s.stdout) (duplicate s.stderr) := by
  refine congrArg (duplicate s.stdin >>= ·) (funext fun stdin => ?_)
  rcases stdin with e | stdin
  · rfl
  refine congrArg (duplicate s.stdout >>= ·) (funext fun stdout => ?_)
  rcases stdout with e | stdout
  · rfl
  refine congrArg (duplicate s.stderr >>= ·) (funext fun stderr => ?_)
  rcases stderr with e | stderr <;> rfl

/-- Opening the streams of a spec is making them one by one. -/
lemma openStreams_eq (s : Spec) :
    s.openStreams = makeStreams (s.stdin.toRedirect .stdin) (s.stdout.toRedirect .stdout)
      (s.stderr.toRedirect .stderr) := by
  refine congrArg (s.stdin.toRedirect .stdin >>= ·) (funext fun stdin => ?_)
  rcases stdin with e | stdin
  · rfl
  refine congrArg (s.stdout.toRedirect .stdout >>= ·) (funext fun stdout => ?_)
  rcases stdout with e | stdout
  · rfl
  refine congrArg (s.stderr.toRedirect .stderr >>= ·) (funext fun stderr => ?_)
  rcases stderr with e | stderr <;> rfl

variable {makeIn makeOut makeErr : Dialogue (Except ε Redirect)} {result : Except ε Streams}

/-- **Making streams.** One of them is the first that cannot be made, and those before it are closed;
or all three are made. -/
theorem run_makeStreams (run : Run (makeStreams makeIn makeOut makeErr) trace result) :
    (∃ e, Run makeIn trace (.error e) ∧ result = .error e) ∨
    (∃ t₁ t₂ t₃ stdin e, Run makeIn t₁ (.ok stdin) ∧ Run makeOut t₂ (.error e) ∧
      Run (closeAll [stdin]) t₃ () ∧ trace = t₁ ++ t₂ ++ t₃ ∧ result = .error e) ∨
    (∃ t₁ t₂ t₃ t₄ stdin stdout e, Run makeIn t₁ (.ok stdin) ∧ Run makeOut t₂ (.ok stdout) ∧
      Run makeErr t₃ (.error e) ∧ Run (closeAll [stdin, stdout]) t₄ () ∧
      trace = t₁ ++ t₂ ++ t₃ ++ t₄ ∧ result = .error e) ∨
    (∃ t₁ t₂ t₃ stdin stdout stderr, Run makeIn t₁ (.ok stdin) ∧ Run makeOut t₂ (.ok stdout) ∧
      Run makeErr t₃ (.ok stderr) ∧ trace = t₁ ++ t₂ ++ t₃ ∧
      result = .ok { stdin, stdout, stderr }) := by
  obtain ⟨t₁, _, stdin, hin, run, rfl⟩ := run_seq_iff.1 run
  rcases stdin with e | stdin
  · obtain ⟨rfl, rfl⟩ := run_pure_iff.1 run
    rw [List.append_nil]
    exact .inl ⟨e, hin, rfl⟩
  obtain ⟨t₂, _, stdout, hout, run, rfl⟩ := run_seq_iff.1 run
  rcases stdout with e | stdout
  · obtain ⟨t₃, _, _, hclose, hend, rfl⟩ := run_seq_iff.1 run
    obtain ⟨rfl, rfl⟩ := run_pure_iff.1 hend
    exact .inr (.inl ⟨t₁, t₂, t₃, stdin, e, hin, hout, hclose, by simp, rfl⟩)
  obtain ⟨t₃, _, stderr, herr, run, rfl⟩ := run_seq_iff.1 run
  rcases stderr with e | stderr
  · obtain ⟨t₄, _, _, hclose, hend, rfl⟩ := run_seq_iff.1 run
    obtain ⟨rfl, rfl⟩ := run_pure_iff.1 hend
    exact .inr (.inr (.inl ⟨t₁, t₂, t₃, t₄, stdin, stdout, e, hin, hout, herr, hclose, by simp,
      rfl⟩))
  · obtain ⟨rfl, rfl⟩ := run_pure_iff.1 run
    exact .inr (.inr (.inr ⟨t₁, t₂, t₃, stdin, stdout, stderr, hin, hout, herr, by simp, rfl⟩))

end Launcher.Launch
