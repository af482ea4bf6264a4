import Launcher.Launch.Start
/-!
# Drafts whose files are opened on the way

A draft can be written with streams that lead to files by their paths. Each file is opened when it
is chosen, and closed when its stream is led elsewhere.

## Main definitions

* `Launcher.Choice` — one write to a draft, perhaps with a file to be opened.
* `Launcher.Draft.choose`, `chooseAll` — a draft after one choice, or after several.
* `Launcher.Draft.outcomes` — the check of a draft after each choice.
-/

namespace Launcher

open Host (Dialogue IoFault OpenMode)
open Host.Dialogue (call)

/-- One write to a draft. -/
inductive Choice where
  | setting (setting : Setting)
  /-- A stream leads to a file that is opened for it. -/
  | file (which : Stream) (path : String) (mode : OpenMode)
  deriving Repr, DecidableEq

namespace Draft

/-- The draft with a stream led elsewhere. -/
def redirect (d : Draft) (which : Stream) (r : Redirect) : Dialogue Draft := do
  Launch.closeAll [d.streams.get which]
  pure (d.apply (.stream which r))

/-- The draft after one choice. -/
def choose (d : Draft) : Choice → Dialogue (Except IoFault Draft)
  | .setting (.stream which r) => do
    pure (.ok (← d.redirect which r))
  | .setting s => pure (.ok (d.apply s))
  | .file which path mode => do
    match ← call (.openFile path mode) with
    | .ok descriptor => pure (.ok (← d.redirect which (.file descriptor)))
    | .error fault => pure (.error fault)

/-- The draft after several choices. When a file cannot be opened, those of the draft are closed. -/
def chooseAll (d : Draft) : List Choice → Dialogue (Except IoFault Draft)
  | [] => pure (.ok d)
  | c :: rest => do
    match ← d.choose c with
    | .ok d => d.chooseAll rest
    | .error fault =>
      Launch.closeAll d.streams.toList
      pure (.error fault)

/-- The check of a draft, first as it is and then after each choice. -/
def outcomes (d : Draft) : List Choice → Dialogue (Except IoFault (List (Except ConfigFault Config)))
  | [] => do
    let outcome ← Launch.build d
    Launch.closeAll d.streams.toList
    pure (.ok [outcome])
  | c :: rest => do
    let outcome ← Launch.build d
    match ← d.choose c with
    | .ok d => do
      match ← d.outcomes rest with
      | .ok others => pure (.ok (outcome :: others))
      | .error fault => pure (.error fault)
    | .error fault =>
      Launch.closeAll d.streams.toList
      pure (.error fault)

end Draft

end Launcher
