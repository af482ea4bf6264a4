import Mathlib.Computability.StateTransition
import Launcher.Proofs.CommandLine.Append
/-!
# Reading an argument, turn by turn

An argument is read in a loop. In one turn a whole run of backslashes is taken, or a quote, or one
other character; between two turns there are the word so far, a flag that says whether a quoted run is
open, and the text that is left. The loop stops at the end of the text, and at a blank when the flag
is off.

What the loop reads is told by `Launcher.CommandLine.takeArgument`, and where it stops; the flag is not.
Here the flag is followed, too. A written argument turns it an even number of times, so it delimits
itself: the loop is back outside of quoted runs where the argument ends.

## Main definitions

* `Launcher.CommandLine.Reader` — what there is between two turns.
* `Launcher.CommandLine.Reader.turn` — one turn of the loop.

## Main results

* `Launcher.CommandLine.Reader.Turns.turn_eq`, `Turns.kept` — what a turn does, and what it does not
  change.
* `Launcher.CommandLine.Reader.reaches_end` — every text is read in a number of turns, and the word is
  the argument that `Launcher.CommandLine.takeArgument` takes.
* `Launcher.CommandLine.quote_delimits` — a written argument delimits itself.
-/

namespace Launcher.CommandLine

open StateTransition

/-- An argument that is being read, between two turns of the loop. -/
structure Reader where
  /-- What has been read of the argument. -/
  word : List Char := []
  /-- A quoted run is open. -/
  quoted : Bool := false
  /-- The text that is left. -/
  text : List Char
  deriving Repr, DecidableEq

namespace Reader

/-! ## Turns -/

/-- The turn that takes a run of backslashes. What stands behind the run is given. -/
def takeSlashes (word : List Char) (quoted : Bool) (slashes : Nat) : List Char → Reader
  | '"' :: rest =>
    if slashes % 2 = 1 then ⟨word ++ backslashes (slashes / 2) ++ ['"'], quoted, rest⟩
    else ⟨word ++ backslashes (slashes / 2), quoted, '"' :: rest⟩
  | rest => ⟨word ++ backslashes slashes, quoted, rest⟩

/-- One turn. There is none where the argument ends. -/
def turn (r : Reader) : Option Reader :=
  match r.text with
  | [] => none
  | '\\' :: _ =>
    some (takeSlashes r.word r.quoted (r.text.takeWhile (· == '\\')).length
      (r.text.dropWhile (· == '\\')))
  | '"' :: rest =>
    match r.quoted, rest with
    | true, '"' :: rest => some { r with word := r.word ++ ['"'], text := rest }
    | _, rest => some { r with quoted := !r.quoted, text := rest }
  | c :: rest =>
    if isBlank c && !r.quoted then none else some { r with word := r.word ++ [c], text := rest }

/-- **What a turn does.** There is one case for each way in which reading goes on. -/
inductive Turns : Reader → Reader → Prop
  /-- Backslashes that stand before no quote. -/
  | slashes (word : List Char) (quoted : Bool) (k : Nat) {rest : List Char}
      (hslash : rest.head? ≠ some '\\') (hquote : rest.head? ≠ some '"') :
    Turns ⟨word, quoted, backslashes (k + 1) ++ rest⟩ ⟨word ++ backslashes (k + 1), quoted, rest⟩
  /-- An even number of backslashes before a quote, which is left in the text. -/
  | halved (word : List Char) (quoted : Bool) (k : Nat) (rest : List Char) :
    Turns ⟨word, quoted, backslashes (2 * (k + 1)) ++ '"' :: rest⟩
      ⟨word ++ backslashes (k + 1), quoted, '"' :: rest⟩
  /-- An odd number of backslashes before a quote, which is a character of the argument. -/
  | literal (word : List Char) (quoted : Bool) (k : Nat) (rest : List Char) :
    Turns ⟨word, quoted, backslashes (2 * k + 1) ++ '"' :: rest⟩
      ⟨word ++ backslashes k ++ ['"'], quoted, rest⟩
  /-- Two quotes in a quoted run. -/
  | doubled (word rest : List Char) :
    Turns ⟨word, true, '"' :: '"' :: rest⟩ ⟨word ++ ['"'], true, rest⟩
  /-- A quote that opens a run or closes it. -/
  | quote (word : List Char) (quoted : Bool) {rest : List Char}
      (hlone : quoted = true → rest.head? ≠ some '"') :
    Turns ⟨word, quoted, '"' :: rest⟩ ⟨word, !quoted, rest⟩
  /-- Any other character. -/
  | char (word : List Char) (quoted : Bool) {c : Char} (rest : List Char) (hslash : c ≠ '\\')
      (hquote : c ≠ '"') (hstay : (isBlank c && !quoted) = false) :
    Turns ⟨word, quoted, c :: rest⟩ ⟨word ++ [c], quoted, rest⟩

variable {r r' : Reader}

/-- A run of backslashes is told from what stands behind it. -/
lemma takeWhile_backslashes (k : Nat) {rest : List Char} (h : rest.head? ≠ some '\\') :
    (backslashes k ++ rest).takeWhile (· == '\\') = backslashes k ∧
      (backslashes k ++ rest).dropWhile (· == '\\') = rest := by
  have hall : ∀ c ∈ backslashes k, (c == '\\') = true := fun c hc => by
    rw [(List.mem_replicate.1 hc).2]
    decide
  have hnone : rest.takeWhile (· == '\\') = [] ∧ rest.dropWhile (· == '\\') = rest := by
    cases rest with
    | nil => exact ⟨rfl, rfl⟩
    | cons c rest =>
      have hc : (c == '\\') = false := by simpa using h
      exact ⟨List.takeWhile_cons_of_neg (by simp [hc]), List.dropWhile_cons_of_neg (by simp [hc])⟩
  constructor
  · rw [List.takeWhile_append_of_pos hall, hnone.1, List.append_nil]
  · rw [List.dropWhile_append_of_pos hall, hnone.2]

/-- Where backslashes stand, the whole run is taken. -/
lemma turn_backslashes (word : List Char) (quoted : Bool) (k : Nat) {rest : List Char}
    (h : rest.head? ≠ some '\\') :
    turn ⟨word, quoted, backslashes (k + 1) ++ rest⟩ =
      some (takeSlashes word quoted (k + 1) rest) := by
  obtain ⟨htake, hdrop⟩ := takeWhile_backslashes (k + 1) h
  have hlength : (backslashes (k + 1)).length = k + 1 := List.length_replicate
  rw [backslashes_succ, List.cons_append] at htake hdrop ⊢
  simp only [turn, htake, hdrop]
  rw [← backslashes_succ, hlength]

/-- **A turn is made as is said.** -/
theorem Turns.turn_eq (h : Turns r r') : r.turn = some r' := by
  cases h with
  | slashes word quoted k hslash hquote =>
    rw [turn_backslashes word quoted k hslash]
    unfold takeSlashes
    split
    · exact absurd rfl hquote
    · rfl
  | halved word quoted k rest =>
    have heven : ¬ (2 * k + 1 + 1) % 2 = 1 := by omega
    have hhalf : (2 * k + 1 + 1) / 2 = k + 1 := by omega
    rw [Nat.mul_succ, turn_backslashes word quoted (2 * k + 1) (by simp)]
    simp only [takeSlashes, if_neg heven, hhalf]
  | literal word quoted k rest =>
    have hodd : (2 * k + 1) % 2 = 1 := by omega
    have hhalf : (2 * k + 1) / 2 = k := by omega
    rw [turn_backslashes word quoted (2 * k) (by simp)]
    simp only [takeSlashes, if_pos hodd, hhalf]
  | doubled word rest => rfl
  | @quote word quoted rest hlone =>
    cases quoted with
    | false => rfl
    | true =>
      simp only [turn]
      split
      · exact absurd rfl (hlone rfl)
      · rfl
  | char word quoted rest hslash hquote hstay =>
    unfold turn
    split <;> rename_i heq <;> cases heq
    · exact absurd rfl hslash
    · exact absurd rfl hquote
    · rw [hstay]
      rfl

/-- The argument ends: the text is at its end, or at a blank outside of quoted runs. -/
def Ends (r : Reader) : Prop :=
  r.text = [] ∨ r.quoted = false ∧ ∃ c ∈ r.text.head?, isBlank c = true

/-- At the end of an argument there is no turn to make. -/
lemma Ends.turn_eq (h : r.Ends) : r.turn = none := by
  obtain ⟨word, quoted, text⟩ := r
  rcases h with htext | ⟨hquoted, c, hc, hblank⟩
  · obtain rfl : text = [] := htext
    rfl
  · obtain rfl : quoted = false := hquoted
    obtain ⟨rest, rfl⟩ : ∃ rest, text = c :: rest := List.head?_eq_some_iff.1 hc
    unfold turn
    split <;> rename_i heq <;> cases heq
    · exact absurd hblank (by decide)
    · exact absurd hblank (by decide)
    · rw [hblank]
      rfl

/-- Where the argument does not end, there is a turn. -/
lemma exists_turns (h : ¬ r.Ends) : ∃ r', Turns r r' := by
  obtain ⟨word, quoted, text⟩ := r
  obtain ⟨k, rest, rfl, hslash⟩ := exists_backslashes text
  cases k with
  | zero =>
    rcases rest with _ | ⟨c, rest⟩
    · exact absurd (.inl rfl) h
    by_cases hquote : c = '"'
    · subst hquote
      by_cases hdoubled : quoted = true ∧ rest.head? = some '"'
      · obtain ⟨rfl, hrest⟩ := hdoubled
        obtain ⟨after, rfl⟩ := List.head?_eq_some_iff.1 hrest
        exact ⟨_, .doubled word after⟩
      · exact ⟨_, .quote word quoted fun hquoted hrest => hdoubled ⟨hquoted, hrest⟩⟩
    · have hc : c ≠ '\\' := fun hc => hslash (by rw [hc]; rfl)
      refine ⟨_, .char word quoted rest hc hquote (Bool.eq_false_iff.2 fun hstop => h (.inr ?_))⟩
      obtain ⟨hblank, hquoted⟩ := Bool.and_eq_true_iff.1 hstop
      exact ⟨by simpa using hquoted, c, rfl, hblank⟩
  | succ k =>
    by_cases hquote : rest.head? = some '"'
    · obtain ⟨after, rfl⟩ := List.head?_eq_some_iff.1 hquote
      obtain ⟨j, hj | hj⟩ : ∃ j, k + 1 = 2 * (j + 1) ∨ k + 1 = 2 * j + 1 := ⟨k / 2, by omega⟩
      · rw [hj]
        exact ⟨_, .halved word quoted j after⟩
      · rw [hj]
        exact ⟨_, .literal word quoted j after⟩
    · exact ⟨_, .slashes word quoted k hslash hquote⟩

/-! ## What turns keep -/

/-- The argument that a reader comes to: what it has read, and what is taken from the text. -/
def argument (r : Reader) : List Char :=
  r.word ++ (takeArgument r.quoted 0 r.text).1

/-- The text that is left behind the argument. -/
def after (r : Reader) : List Char :=
  (takeArgument r.quoted 0 r.text).2

/-- A quoted run is open behind the whole text. -/
def isOpen (r : Reader) : Bool :=
  leavesRun r.quoted 0 r.text

/-- **What a turn does not change**, and that it leaves less text. -/
structure Kept (r r' : Reader) : Prop where
  argument : r'.argument = r.argument
  after : r'.after = r.after
  isOpen : r'.isOpen = r.isOpen
  shorter : r'.text.length < r.text.length

/-- Backslashes that stand before no quote have no meaning. -/
lemma kept_slashes (word : List Char) (quoted : Bool) (k : Nat) {rest : List Char}
    (hslash : rest.head? ≠ some '\\') (hquote : rest.head? ≠ some '"') :
    Kept ⟨word, quoted, backslashes (k + 1) ++ rest⟩ ⟨word ++ backslashes (k + 1), quoted, rest⟩ := by
  have hnone : ∀ j behind, rest ≠ backslashes j ++ '"' :: behind := by
    rintro (_ | j) behind rfl
    · exact hquote rfl
    · exact hslash rfl
  have htake : takeArgument quoted (k + 1) rest = _ := takeArgument_held (k + 1) hnone
  have hleaves : leavesRun quoted (k + 1) rest = leavesRun quoted 0 rest := by
    cases rest with
    | nil => rfl
    | cons c rest =>
      have hc : c ≠ '\\' := fun hc => hslash (congrArg some hc)
      have hc' : c ≠ '"' := fun hc => hquote (congrArg some hc)
      rw [leavesRun_cons (k + 1) rest hc hc', leavesRun_cons 0 rest hc hc']
  constructor
  · simp only [argument, takeArgument_backslashes, Nat.zero_add, htake, List.append_assoc]
  · simp only [after, takeArgument_backslashes, Nat.zero_add, htake]
  · simp only [isOpen, leavesRun_backslashes, Nat.zero_add, hleaves]
  · simp only [List.length_append, backslashes, List.length_replicate]
    omega

/-- An even number of backslashes before a quote is halved, whatever the quote does. -/
lemma takeArgument_halved (quoted : Bool) (k : Nat) (rest : List Char) :
    takeArgument quoted (2 * k) ('"' :: rest) =
      (backslashes k ++ (takeArgument quoted 0 ('"' :: rest)).1,
        (takeArgument quoted 0 ('"' :: rest)).2) := by
  by_cases hdoubled : quoted = true ∧ rest.head? = some '"'
  · obtain ⟨rfl, hrest⟩ := hdoubled
    obtain ⟨after, rfl⟩ := List.head?_eq_some_iff.1 hrest
    have hnone := takeArgument_even_quotes 0 after
    rw [Nat.mul_zero] at hnone
    rw [takeArgument_even_quotes, hnone]
    rfl
  · have hlone : quoted = true → rest.head? ≠ some '"' := fun hquoted hrest =>
      hdoubled ⟨hquoted, hrest⟩
    have hnone := takeArgument_even_quote 0 hlone
    rw [Nat.mul_zero] at hnone
    rw [takeArgument_even_quote k hlone, hnone]
    rfl

/-- **What a turn keeps.** -/
theorem Turns.kept (h : Turns r r') : Kept r r' := by
  cases h with
  | slashes word quoted k hslash hquote => exact kept_slashes word quoted k hslash hquote
  | halved word quoted k rest =>
    -- the quote is left in the text, and the next turn finds no backslashes before it
    have htake := takeArgument_halved quoted (k + 1) rest
    have hleaves : leavesRun quoted (2 * (k + 1)) ('"' :: rest) =
        leavesRun quoted 0 ('"' :: rest) := by
      rw [leavesRun, leavesRun, if_neg (by omega), if_neg (by omega)]
    constructor
    · simp only [argument, takeArgument_backslashes, Nat.zero_add, htake, List.append_assoc]
    · simp only [after, takeArgument_backslashes, Nat.zero_add, htake]
    · simp only [isOpen, leavesRun_backslashes, Nat.zero_add, hleaves]
    · simp only [List.length_append, backslashes, List.length_replicate]
      omega
  | literal word quoted k rest =>
    have htake := takeArgument_odd_quote quoted k rest
    have hleaves : leavesRun quoted (2 * k + 1) ('"' :: rest) = leavesRun quoted 0 rest := by
      rw [leavesRun, if_pos (by omega)]
    constructor
    · simp [argument, takeArgument_backslashes, htake]
    · simp [after, takeArgument_backslashes, htake]
    · simp [isOpen, leavesRun_backslashes, hleaves]
    · simp only [List.length_append, List.length_cons]
      omega
  | doubled word rest =>
    have htake := takeArgument_even_quotes 0 rest
    constructor
    · simp [argument, htake, backslashes]
    · simp [after, htake]
    · simp [isOpen, leavesRun]
    · simp only [List.length_cons]
      omega
  | quote word quoted hlone =>
    have htake := takeArgument_even_quote 0 hlone
    constructor
    · simp [argument, htake, backslashes]
    · simp [after, htake]
    · simp [isOpen, leavesRun]
    · simp
  | char word quoted rest hslash hquote hstay =>
    have htake := takeArgument_cons 0 rest hslash hquote hstay
    constructor
    · simp [argument, htake, backslashes]
    · simp [after, htake]
    · exact (leavesRun_cons 0 rest hslash hquote).symm
    · simp

/-! ## Where the turns end -/

/-- Where the argument ends, nothing more is taken. -/
lemma Ends.taken (h : r.Ends) : r.argument = r.word ∧ r.after = r.text := by
  obtain ⟨word, quoted, text⟩ := r
  rcases h with htext | ⟨hquoted, hblank⟩
  · obtain rfl : text = [] := htext
    exact ⟨List.append_nil word, rfl⟩
  · obtain rfl : quoted = false := hquoted
    obtain ⟨c, hc, hblank⟩ := hblank
    have hends : EndsWord text := fun d hd => Option.mem_unique hc hd ▸ hblank
    have htake := takeArgument_of_endsWord 0 hends
    exact ⟨by simp [argument, htake, backslashes], by simp [after, htake]⟩

/-- A run that is open where the argument ends is open at the end of the text. -/
lemma Ends.isOpen_of_quoted (h : r.Ends) (hquoted : r.quoted = true) :
    r.text = [] ∧ r.isOpen = true := by
  rcases h with htext | ⟨hnone, -⟩
  · rw [isOpen, htext]
    exact ⟨rfl, hquoted⟩
  · rw [hnone] at hquoted
    cases hquoted

/-- **Every text is read in a number of turns.** At the end the word is the argument, and what is
behind the argument is left. The flag says whether a run is open; if there is text left, none is.

**Proof sketch.** Induction on the length of the text. A turn leaves less text, and keeps the
argument, what is behind it, and whether a run is open behind the whole text. Where there is no turn,
nothing more is taken from the text. -/
theorem reaches_end (r : Reader) :
    ∃ quoted, Reaches turn r ⟨r.argument, quoted, r.after⟩ ∧
      turn ⟨r.argument, quoted, r.after⟩ = none ∧
      (quoted = true → r.after = [] ∧ r.isOpen = true) := by
  induction hn : r.text.length using Nat.strongRecOn generalizing r with
  | ind n ih =>
    subst hn
    by_cases hends : r.Ends
    · obtain ⟨hargument, hafter⟩ := hends.taken
      refine ⟨r.quoted, ?_⟩
      rw [hargument, hafter]
      exact ⟨.refl, hends.turn_eq, hends.isOpen_of_quoted⟩
    · obtain ⟨r', hturns⟩ := exists_turns hends
      obtain ⟨hargument, hafter, hopen, hshorter⟩ := hturns.kept
      obtain ⟨quoted, hreaches, hstops, hflag⟩ := ih _ hshorter r' rfl
      rw [hargument, hafter] at hreaches hstops
      rw [hafter, hopen] at hflag
      exact ⟨quoted, .head hturns.turn_eq hreaches, hstops, hflag⟩

end Reader

/-! ## Written arguments -/

/-- **A written argument delimits itself.** Whatever follows it, if that begins no word: the loop that
is started in front of it reads the argument, stops where it was written to end, and is outside of
quoted runs there. A written argument is not empty, and it begins with no blank, so that the loop is
started in front of it.

**Proof sketch.** The argument is what is taken from the text (`takeArgument_quoteWord`), and the turns
come to it (`Reader.reaches_end`). If the flag were on at the end, no text would be left there, and a run
would be open behind the written argument (`leavesRun_quoteWord`). -/
theorem quote_delimits (argument : String) :
    (∀ text : String, EndsWord text.toList →
      Reaches Reader.turn ⟨[], false, (quote argument ++ text).toList⟩
          ⟨argument.toList, false, text.toList⟩ ∧
        Reader.turn ⟨argument.toList, false, text.toList⟩ = none ∧
        takeArgument false 0 (quote argument ++ text).toList = (argument.toList, text.toList)) ∧
      quote argument ≠ "" ∧ ∀ c ∈ (quote argument).toList.head?, isBlank c = false := by
  have hquote : (quote argument).toList = quoteWord argument.toList := String.toList_ofList
  refine ⟨fun text htext => ?_, fun hempty => ?_, fun c hc => ?_⟩
  · have htake : takeArgument false 0 (quote argument ++ text).toList =
        (argument.toList, text.toList) := by
      rw [String.toList_append, hquote]
      exact takeArgument_quoteWord argument.toList htext
    obtain ⟨quoted, hreaches, hstops, hflag⟩ :=
      Reader.reaches_end ⟨[], false, (quote argument ++ text).toList⟩
    simp only [Reader.argument, Reader.after, htake, List.nil_append] at hreaches hstops hflag
    have hoff : quoted = false := by
      refine Bool.eq_false_iff.2 fun hon => ?_
      obtain ⟨hnone, hopen⟩ := hflag hon
      have hclosed : leavesRun false 0 (quote argument ++ text).toList = false := by
        rw [String.toList_append, hnone, hquote, List.append_nil]
        exact leavesRun_quoteWord argument.toList
      exact absurd (hopen.symm.trans hclosed) (by decide)
    exact ⟨hoff ▸ hreaches, hoff ▸ hstops, htake⟩
  · exact quoteWord_ne_nil argument.toList (hquote ▸ String.toList_eq_nil_iff.2 hempty)
  · obtain ⟨d, rest, hword, hd⟩ := exists_quoteWord_eq_cons argument.toList
    rw [hquote, hword] at hc
    exact Option.some.inj hc ▸ hd

/-- An argument with a blank, a quote behind a backslash and a backslash at its end, before another
argument that leaves a run open. -/
theorem quote_delimits_of_openRun :
    EndsWord " \"x y".toList ∧
      quote "a \\\"b\\" = "\"a \\\\\\\"b\\\\\"" ∧
      Reaches Reader.turn ⟨[], false, ("\"a \\\\\\\"b\\\\\"" ++ " \"x y").toList⟩
        ⟨"a \\\"b\\".toList, false, " \"x y".toList⟩ ∧
      Reader.turn ⟨"a \\\"b\\".toList, false, " \"x y".toList⟩ = none := by
  have hends : EndsWord " \"x y".toList := by simp [EndsWord, isBlank]
  have hquote : quote "a \\\"b\\" = "\"a \\\\\\\"b\\\\\"" := by decide +kernel
  obtain ⟨hreaches, hstops, -⟩ := (quote_delimits "a \\\"b\\").1 _ hends
  rw [hquote] at hreaches
  exact ⟨hends, hquote, hreaches, hstops⟩

end Launcher.CommandLine
