import Launcher.Proofs.Host.Service
import Launcher.Proofs.Host.Volume
import Launcher.Proofs.Launch.Streams
/-!
# What a launch spec does to the files

Making a configuration of a launch spec opens the files of its streams, in the order of the streams
and up to the first that is refused. Standard input is only read; a file that is appended to is made
if it is missing, and else keeps its bytes; any other is made or emptied. All other files stay as they
are. The check of the configuration, which comes last, neither adds to this nor takes anything back.

Paths may lead to one file in several ways, and several streams to one path, so that the order of the
openings decides what is left in the end.

## Main definitions

* `Launcher.Opening`, `Launcher.Spec.openings` — the files that a launch spec leads to, and how they
  are opened.
* `Launcher.Files.serves` — how a host keeps the files.
* `Launcher.Files.after` — the bytes of a file after some openings.
* `Launcher.Files.Names`, `Launcher.Files.Says` — the fault that names a file which was refused, and a
  draft that says what a launch spec says.

## Main results

* `Launcher.Files.reached_openStreams` — what opening the streams does to the files.
* `Launcher.Files.toConfig_files` — what is opened, what that leaves, and what comes of it.
-/

namespace Launcher

open Host Host.Dialogue

/-! ## Openings -/

/-- A file that is to be opened in a mode. -/
structure Opening where
  path : String
  mode : OpenMode
  deriving Repr, DecidableEq

/-- The file that a stream leads to. Standard input is read; the other streams are appended to what is
there, or begin anew. -/
def StreamSpec.opening? : Stream → StreamSpec → Option Opening
  | _, .mode _ => none
  | .stdin, .file path _ => some ⟨path, .read⟩
  | .stdout, .file path append | .stderr, .file path append =>
    some ⟨path, if append then .append else .create⟩

/-- The files that a launch spec leads to, in the order of its streams. -/
def Spec.openings (s : Spec) : List Opening :=
  (s.stdin.opening? .stdin).toList ++ (s.stdout.opening? .stdout).toList ++
    (s.stderr.opening? .stderr).toList

namespace Files

open Volume (Grown left)

/-! ## The files of the host -/

/-- How a host keeps the files of a launcher in the directory `here`. It may refuse to open any file,
for whatever reason, and then does nothing. -/
def serves (here : Location) : Service Volume
  | v, ⟨.openFile path mode, .ok _⟩, w =>
    '\x00' ∉ path.toList ∧ ∃ channel, v.openFile here path mode = .ok (channel, w)
  | v, ⟨.isDirectory path, answer⟩, w => answer = v.isDirectory here path ∧ w = v
  | v, _, w => w = v

/-- The files that the host is asked to open, in this order. -/
def asked (trace : List Exchange) : List Opening :=
  trace.filterMap fun
    | ⟨.openFile path mode, _⟩ => some ⟨path, mode⟩
    | _ => none

/-- The file at a place is the one that is opened. -/
def hits (v : Volume) (here l : Location) (o : Opening) : Bool :=
  (v.place? here o.path).any fun place => v.SameFile l place

/-- The bytes of the file at a place after some openings, in their order. -/
def after (v : Volume) (here : Location) (os : List Opening) (l : Location) : Option (List UInt8) :=
  (os.filter (hits v here l)).foldl (fun old o => left o.mode old) (v.text? l)

variable {here : Location} {v w u : Volume} {os : List Opening} {o : Opening} {which : Stream}
  {stream : StreamSpec} {trace : List Exchange} {r : Redirect} {fault : Fault} {spec : Spec}

/-- Without exchanges no file is to be opened. -/
@[simp]
lemma asked_nil : asked [] = [] := rfl

/-- A file that is to be opened counts whatever the answer is. -/
@[simp]
lemma asked_openFile (path : String) (mode : OpenMode) (answer : Except IoFault Descriptor)
    (t : List Exchange) : asked (⟨.openFile path mode, answer⟩ :: t) = ⟨path, mode⟩ :: asked t := rfl

/-- The files of one trace after another stand one after another. -/
@[simp]
lemma asked_append (t t' : List Exchange) : asked (t ++ t') = asked t ++ asked t' :=
  List.filterMap_append

/-- Some files have been opened, one after the other, and nothing else has been done. -/
structure Reached (here : Location) (v : Volume) (os : List Opening) (w : Volume) : Prop where
  text : ∀ l, w.text? l = after v here os l
  place : ∀ o ∈ os, (v.place? here o.path).isSome
  grown : Grown v w
  same : ∀ l l', w.SameFile l l' ↔ v.SameFile l l'
  start : v.Sound
  sound : w.Sound

namespace Reached

/-- Nothing has been opened yet. -/
lemma nil (hv : v.Sound) : Reached here v [] v where
  text _ := rfl
  place := by simp
  grown := .refl v
  same _ _ := Iff.rfl
  start := hv
  sound := hv

/-- **One more file.** Its path leads where it led at the beginning, so that the effects of all
openings can be told by the files as they were. -/
theorem snoc (h : Reached here v os w) {channel : Channel}
    (hopen : w.openFile here o.path o.mode = .ok (channel, u)) : Reached here v (os ++ [o]) u := by
  obtain ⟨place, hplace, hu⟩ := Volume.opens_of_openFile h.sound hopen
  rw [h.grown.place?_eq h.start] at hplace
  have hhits (l : Location) : hits v here l o = true ↔ w.SameFile l place := by
    rw [h.same l place, hits, hplace]
    simp
  refine ⟨fun l => ?_, ?_, h.grown.trans hu.grown, fun l l' => (hu.same l l').trans (h.same l l'),
    h.start, hu.sound⟩
  · rw [after, List.filter_append, List.foldl_append, ← after, ← h.text l]
    by_cases hl : hits v here l o
    · rw [List.filter_cons_of_pos hl, hu.changes l ((hhits l).1 hl)]
      rfl
    · rw [List.filter_cons_of_neg hl, hu.spares l fun hsame => hl ((hhits l).2 hsame)]
      rfl
  · intro o' ho'
    rcases List.mem_append.1 ho' with ho' | ho'
    · exact h.place o' ho'
    · obtain rfl := List.mem_singleton.1 ho'
      simp [hplace]

end Reached

/-! ## One stream -/

/-- Where a stream leads when its file has been opened. -/
def Leads (trace : List Exchange) (which : Stream) (stream : StreamSpec) (r : Redirect) : Prop :=
  match stream with
  | .mode .inherit => r = .inherit
  | .mode .discard => r = .discard
  | .file _ _ => ∃ o d, stream.opening? which = some o ∧ r = .file d ∧
    (⟨.openFile o.path o.mode, .ok d⟩ : Exchange) ∈ trace

/-- Where a stream leads stays so in a longer trace. -/
lemma Leads.mono {later : List Exchange} (h : Leads trace which stream r) (hsub : trace ⊆ later) :
    Leads later which stream r := by
  rcases stream with (_ | _) | ⟨path, append⟩
  · exact h
  · exact h
  · obtain ⟨o, d, ho, hr, hmem⟩ := h
    exact ⟨o, d, ho, hr, hsub hmem⟩

/-- The file of a stream is to be opened in the mode of the stream. -/
lemma opening?_file (which : Stream) (path : String) (append : Bool) :
    (StreamSpec.file path append).opening? which = some ⟨path, StreamSpec.openMode which append⟩ := by
  cases which <;> rfl

/-- **A stream that is opened.** -/
theorem Reached.toRedirect (h : Reached here v os w)
    (run : Run (stream.toRedirect which) trace (.ok r)) (served : Served (serves here) w trace u) :
    Reached here v (os ++ (stream.opening? which).toList) u ∧
      asked trace = (stream.opening? which).toList ∧ Leads trace which stream r := by
  rcases stream with (_ | _) | ⟨path, append⟩
  · obtain ⟨rfl, heq⟩ := run_pure_iff.1 run
    obtain rfl := served_nil_iff.1 served
    cases heq
    exact ⟨by simpa [StreamSpec.opening?] using h, rfl, rfl⟩
  · obtain ⟨rfl, heq⟩ := run_pure_iff.1 run
    obtain rfl := served_nil_iff.1 served
    cases heq
    exact ⟨by simpa [StreamSpec.opening?] using h, rfl, rfl⟩
  · obtain ⟨answer, _, hend, rfl⟩ := run_call_seq_iff.1 run
    rcases answer with fault | d <;> obtain ⟨rfl, heq⟩ := run_pure_iff.1 hend <;> cases heq
    obtain ⟨-, channel, hopen⟩ := served_singleton_iff.1 served
    rw [opening?_file]
    exact ⟨h.snoc hopen, rfl, _, d, opening?_file which path append, rfl, by simp⟩

/-- **A stream that is refused.** -/
theorem refused_toRedirect (run : Run (stream.toRedirect which) trace (.error fault))
    (served : Served (serves here) w trace u) :
    u = w ∧ ∃ o e, stream.opening? which = some o ∧
      trace = [⟨.openFile o.path o.mode, .error e⟩] ∧ fault = StreamSpec.openFault o.path e := by
  rcases stream with (_ | _) | ⟨path, append⟩
  · cases (run_pure_iff.1 run).2
  · cases (run_pure_iff.1 run).2
  · obtain ⟨answer, _, hend, rfl⟩ := run_call_seq_iff.1 run
    rcases answer with e | d <;> obtain ⟨rfl, heq⟩ := run_pure_iff.1 hend <;> cases heq
    exact ⟨served_singleton_iff.1 served, _, e, opening?_file which path append, rfl, rfl⟩

/-! ## All streams -/

/-- Closing files opens none, and changes none. -/
lemma eq_of_closeAll {rs : List Redirect} (run : Run (Launch.closeAll rs) trace ())
    (served : Served (serves here) v trace w) : w = v ∧ asked trace = [] := by
  obtain rfl := Launch.run_closeAll run
  refine ⟨served.eq_of_forall fun e he s s' h => ?_, ?_⟩
  · obtain ⟨d, -, rfl⟩ := List.mem_map.1 he
    exact h
  · rw [asked, List.filterMap_map]
    exact List.filterMap_eq_nil_iff.2 fun _ _ => rfl

/-- **Opening the streams.** All files are opened, or those before the first that is refused.

**Proof sketch.** One stream after the other (`Launcher.Files.Reached.toRedirect`), as far as
`Launcher.Launch.run_makeStreams` says. -/
theorem reached_openStreams {result : Except Fault Streams} (hv : v.Sound)
    (run : Run spec.openStreams trace result) (served : Served (serves here) v trace w) :
    (∃ streams, result = .ok streams ∧ Reached here v spec.openings w ∧
      asked trace = spec.openings ∧ Leads trace .stdin spec.stdin streams.stdin ∧
      Leads trace .stdout spec.stdout streams.stdout ∧
      Leads trace .stderr spec.stderr streams.stderr) ∨
    (∃ opened o rest e, spec.openings = opened ++ o :: rest ∧ Reached here v opened w ∧
      asked trace = opened ++ [o] ∧ ⟨.openFile o.path o.mode, .error e⟩ ∈ trace ∧
      result = .error (StreamSpec.openFault o.path e)) := by
  have start : Reached here v [] v := .nil hv
  rw [Launch.openStreams_eq] at run
  rcases Launch.run_makeStreams run with ⟨_, run₁, rfl⟩ |
    ⟨t₁, t₂, t₃, stdin, _, run₁, run₂, hclose, rfl, rfl⟩ |
    ⟨t₁, t₂, t₃, t₄, stdin, stdout, _, run₁, run₂, run₃, hclose, rfl, rfl⟩ |
    ⟨t₁, t₂, t₃, stdin, stdout, stderr, run₁, run₂, run₃, rfl, rfl⟩
  · obtain ⟨rfl, o, e, ho, rfl, rfl⟩ := refused_toRedirect run₁ served
    refine .inr ⟨[], o, (spec.stdout.opening? .stdout).toList ++ (spec.stderr.opening? .stderr).toList,
      e, ?_, start, rfl, by simp, rfl⟩
    simp [Spec.openings, ho]
  · obtain ⟨w₂, served, served₃⟩ := served_append_iff.1 served
    obtain ⟨w₁, served₁, served₂⟩ := served_append_iff.1 served
    obtain ⟨h₁, hasked₁, -⟩ := start.toRedirect run₁ served₁
    obtain ⟨rfl, o, e, ho, rfl, rfl⟩ := refused_toRedirect run₂ served₂
    obtain ⟨rfl, hasked₃⟩ := eq_of_closeAll hclose served₃
    refine .inr ⟨_, o, (spec.stderr.opening? .stderr).toList, e, ?_, h₁, ?_, by simp, rfl⟩
    · simp [Spec.openings, ho]
    · simp [hasked₁, hasked₃]
  · obtain ⟨w₃, served, served₄⟩ := served_append_iff.1 served
    obtain ⟨w₂, served, served₃⟩ := served_append_iff.1 served
    obtain ⟨w₁, served₁, served₂⟩ := served_append_iff.1 served
    obtain ⟨h₁, hasked₁, -⟩ := start.toRedirect run₁ served₁
    obtain ⟨h₂, hasked₂, -⟩ := h₁.toRedirect run₂ served₂
    obtain ⟨rfl, o, e, ho, rfl, rfl⟩ := refused_toRedirect run₃ served₃
    obtain ⟨rfl, hasked₄⟩ := eq_of_closeAll hclose served₄
    refine .inr ⟨_, o, [], e, ?_, h₂, ?_, by simp, rfl⟩
    · simp [Spec.openings, ho]
    · simp [hasked₁, hasked₂, hasked₄]
  · obtain ⟨w₂, served, served₃⟩ := served_append_iff.1 served
    obtain ⟨w₁, served₁, served₂⟩ := served_append_iff.1 served
    obtain ⟨h₁, hasked₁, hleads₁⟩ := start.toRedirect run₁ served₁
    obtain ⟨h₂, hasked₂, hleads₂⟩ := h₁.toRedirect run₂ served₂
    obtain ⟨h₃, hasked₃, hleads₃⟩ := h₂.toRedirect run₃ served₃
    refine .inl ⟨_, rfl, h₃, ?_, hleads₁.mono ?_, hleads₂.mono ?_, hleads₃.mono ?_⟩
    · simp [Spec.openings, hasked₁, hasked₂, hasked₃]
    all_goals
      intro e he
      simp [he]

/-! ## The check -/

/-- The check of a draft asks the host about a directory, and changes no file. -/
lemma result_of_run_build {draft : Draft} {result : Except ConfigFault Config}
    (run : Run (Launch.build draft) trace result) (served : Served (serves here) v trace w) :
    w = v ∧ asked trace = [] ∧ result = draft.build (v.isDirectory here) := by
  have hidle : w = v ∧ asked trace = [] ∧ AnswersBy (v.isDirectory here) trace := by
    rcases Launch.run_build run with ⟨_, -, rfl, -⟩ | ⟨_, -, rfl, -⟩ | ⟨_, _, _, -, rfl, -⟩
    · exact ⟨served_nil_iff.1 served, rfl, by simp [AnswersBy]⟩
    · exact ⟨served_nil_iff.1 served, rfl, by simp [AnswersBy]⟩
    · obtain ⟨hanswer, rfl⟩ := served_singleton_iff.1 served
      refine ⟨rfl, rfl, fun e he path isThere heq => ?_⟩
      rw [List.mem_singleton.1 he] at heq
      cases heq
      exact hanswer
  obtain ⟨rfl, hasked, hanswers⟩ := hidle
  exact ⟨rfl, hasked, Launch.result_of_run_build run hanswers⟩

/-! ## The whole -/

/-- **The fault that names a file** which was refused: it gives the path, and why it was refused. -/
structure Names (path : String) (e : IoFault) (fault : Fault) : Prop where
  text : fault = .configuration ("Cannot open redirect target " ++ path ++ ": " ++ e.message)
  /-- A refusal by the host is given by its text and its number. -/
  refused : ∀ errno, e = .refused errno →
    e.message = errno.sentence ++ " (os error " ++ toString errno.code ++ ")"
  /-- The host is not asked to open a path with a NUL in it. -/
  nulInPath : e = .nulInPath → e.message = "file name contained an unexpected NUL byte"

/-- The fault of a refused file names it. -/
lemma names_openFault (path : String) (e : IoFault) : Names path e (StreamSpec.openFault path e) where
  text := rfl
  refused errno h := by rw [h, IoFault.message, Errno.message]
  nulInPath h := by rw [h, IoFault.message]

/-- **A draft that says what a launch spec says.** Where its streams lead is said apart. -/
structure Says (spec : Spec) (d : Draft) : Prop where
  commandLine : d.commandLine = spec.commandLine
  workingDirectory : d.workingDirectory = spec.workingDirectory
  inheritHandles : d.inheritHandles = spec.inheritHandles
  newConsole : d.creation.newConsole = spec.console.newConsole
  noWindow : d.creation.noWindow = spec.console.noWindow
  detachedConsole : d.creation.detachedConsole = spec.console.detached
  newProcessGroup : d.creation.newProcessGroup = spec.console.newProcessGroup
  hideWindow : d.hideWindow = spec.console.hideWindow
  completion : d.completion = spec.completion

/-- The draft of a spec says all that the spec says. -/
lemma says_draft (spec : Spec) (streams : Streams) : Says spec (spec.draft streams) := by
  constructor <;> rfl

/-- **What making a configuration does to the files.**

Some of the files of the spec are opened, in the order of its streams, and the host is asked for no
others, except for the one that it refuses. Each has a place, and what is left at any place are the
bytes that were there, changed by those of the openings that hit it, in their order; no directory
comes or goes. When a file is refused, the outcome is the fault that names it. When none is, the
outcome is that of the check, for the values of the spec, streams that lead to the opened files, and
the directories as they were at first; the files do not depend on it. A rule that is broken can be
told from its reason (`Launcher.ConfigFault.eq_of_reason_eq`).

**Proof sketch.** `Launcher.Files.reached_openStreams` for the openings; neither the check
(`Launcher.Files.result_of_run_build`) nor closing changes a file. -/
theorem toConfig_files {result : Except Fault Config} (hv : v.Sound)
    (run : Run spec.toConfig trace result) (served : Served (serves here) v trace w) :
    ∃ opened rest, spec.openings = opened ++ rest ∧ asked trace = opened ++ rest.take 1 ∧
      (∀ o ∈ opened, (v.place? here o.path).isSome) ∧
      (∀ l, w.text? l = after v here opened l) ∧
      (∀ l, w.isDirectoryAt l = v.isDirectoryAt l) ∧
      (∀ o ∈ rest.head?, ∃ e fault, ⟨.openFile o.path o.mode, .error e⟩ ∈ trace ∧
        Names o.path e fault ∧ result = .error fault) ∧
      (rest = [] → ∃ draft, Says spec draft ∧ Leads trace .stdin spec.stdin draft.streams.stdin ∧
        Leads trace .stdout spec.stdout draft.streams.stdout ∧
        Leads trace .stderr spec.stderr draft.streams.stderr ∧
        result = (draft.build (v.isDirectory here)).mapError fun fault =>
          .configuration fault.reason) := by
  obtain ⟨t₁, _, streams, hopen, run, rfl⟩ := run_seq_iff.1 run
  obtain ⟨w₁, served₁, served⟩ := served_append_iff.1 served
  rcases reached_openStreams hv hopen served₁ with
    ⟨streams, rfl, h, hasked, hleads₁, hleads₂, hleads₃⟩ | ⟨opened, o, rest, e, ho, h, hasked, he, rfl⟩
  · obtain ⟨t₂, t₃, checked, hbuild, run, rfl⟩ := run_seq_iff.1 run
    obtain ⟨w₂, served₂, served₃⟩ := served_append_iff.1 served
    obtain ⟨rfl, hasked₂, hchecked⟩ := result_of_run_build hbuild served₂
    have hdirectory : w₂.isDirectory here = v.isDirectory here :=
      funext (h.grown.isDirectory_eq hv here)
    rw [hdirectory] at hchecked
    obtain ⟨rfl, hasked₃, hresult⟩ : w = w₂ ∧ asked t₃ = [] ∧
        result = checked.mapError ConfigFault.toFault := by
      rcases checked with fault | c
      · obtain ⟨t₃, _, _, hclose, hend, rfl⟩ := run_seq_iff.1 run
        obtain ⟨rfl, rfl⟩ := run_pure_iff.1 hend
        rw [List.append_nil] at served₃ ⊢
        obtain ⟨rfl, hasked₃⟩ := eq_of_closeAll hclose served₃
        exact ⟨rfl, hasked₃, rfl⟩
      · obtain ⟨rfl, rfl⟩ := run_pure_iff.1 run
        exact ⟨served_nil_iff.1 served₃, rfl, rfl⟩
    have hsub : t₁ ⊆ t₁ ++ (t₂ ++ t₃) := List.subset_append_left _ _
    refine ⟨spec.openings, [], by simp, by simp [hasked, hasked₂, hasked₃], h.place, h.text,
      h.grown.directory, by simp, fun _ => ⟨spec.draft streams, says_draft spec streams,
        hleads₁.mono hsub, hleads₂.mono hsub, hleads₃.mono hsub, ?_⟩⟩
    rw [hresult, hchecked]
    rfl
  · obtain ⟨rfl, rfl⟩ := run_pure_iff.1 run
    obtain rfl := served_nil_iff.1 served
    refine ⟨opened, o :: rest, ho, by simp [hasked], h.place, h.text, h.grown.directory, ?_, by simp⟩
    rintro _ ⟨⟩
    exact ⟨e, _, by simp [he], names_openFault o.path e, rfl⟩

/-- A spec that reads a file, empties the same file by another path, and appends to one that is
missing. Its check fails, since the streams would not be inherited; the file is empty all the same, and
the other is there. -/
theorem toConfig_files_of_aliases :
    ∃ (v w : Volume) (spec : Spec) (trace : List Exchange), v.Sound ∧
      Run spec.toConfig trace (.error ConfigFault.redirectNotInherited.toFault) ∧
      Served (serves ["work"]) v trace w ∧ v.text? ["work", "a"] = some [104, 105] ∧
      w.text? ["work", "a"] = some [] ∧ v.text? ["work", "log"] = none ∧
      w.text? ["work", "log"] = some [] := by
  let v : Volume :=
    { bindings := [⟨["work"], .directory, 0o755⟩, ⟨["work", "a"], .file 0, 0o644⟩]
      contents := [(0, [104, 105])], next := 1 }
  let spec : Spec :=
    { commandLine := "cat", stdin := .file "a" false, stdout := .file "./a" false
      stderr := .file "log" true }
  let w : Volume := (v.setBytes 0 []).create ["work", "log"] 0o644 []
  let closed : List Exchange := [Launch.closing 3, Launch.closing 4, Launch.closing 5]
  let opening : List Exchange :=
    [⟨.openFile "a" .read, .ok 3⟩, ⟨.openFile "./a" .create, .ok 4⟩,
      ⟨.openFile "log" .append, .ok 5⟩]
  have hv : v.Sound := by
    refine Volume.sound_of_bindings (by decide) fun b hb n hn => ?_
    rcases List.mem_pair.1 hb with rfl | rfl
    · cases hn
    · cases hn
      decide
  have hbuild : Run (Launch.build (spec.draft ⟨.file 3, .file 4, .file 5⟩)) []
      (.error .redirectNotInherited) := by
    have hstatic : (spec.draft ⟨.file 3, .file 4, .file 5⟩).staticFault? =
        some .redirectNotInherited := by decide
    have hfault : (spec.draft ⟨.file 3, .file 4, .file 5⟩).build (fun _ => false) =
        .error .redirectNotInherited :=
      Draft.build_eq_error_iff.2 (by rw [Draft.fault?, hstatic])
    rw [Launch.build, hstatic]
    exact run_pure_iff.2 ⟨rfl, hfault.symm⟩
  have hopen : Run spec.openStreams opening (.ok ⟨.file 3, .file 4, .file 5⟩) :=
    .ask (.ask (.ask (.done _)))
  have run : Run spec.toConfig (opening ++ closed)
      (.error ConfigFault.redirectNotInherited.toFault) :=
    run_seq_iff.2 ⟨opening, closed, _, hopen,
      run_seq_iff.2 ⟨[], closed, _, hbuild, .ask (.ask (.ask (.done _))), rfl⟩, rfl⟩
  have served : Served (serves ["work"]) v (opening ++ closed) w :=
    .cons ⟨by decide, .file 0, rfl⟩ (.cons ⟨by decide, .file 0, rfl⟩
      (.cons ⟨by decide, .file 1, rfl⟩ (.cons rfl (.cons rfl (.cons rfl (.nil w))))))
  obtain ⟨opened, rest, hopenings, -, -, htext, -, hrefused, -⟩ := toConfig_files hv run served
  obtain rfl : rest = [] := by
    rcases rest with _ | ⟨o, rest⟩
    · rfl
    · obtain ⟨e, _, he, -⟩ := hrefused o rfl
      simp [opening, closed, Launch.closing] at he
  rw [List.append_nil] at hopenings
  refine ⟨v, w, spec, _, hv, run, served, rfl, ?_, rfl, ?_⟩
  · rw [htext, ← hopenings]
    rfl
  · rw [htext, ← hopenings]
    rfl

end Files

end Launcher
