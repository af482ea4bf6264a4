import Launcher.Proofs.CommandLine.RoundTrip
/-!
# The grammar of command lines

What a command line says, without a reader that goes through it character by character. The program
name is the text up to the first blank that has an even number of quotes before it. The rest is read
in three passes, each of which looks at the whole of it: runs of backslashes are resolved, then quoted
runs are told from what is outside of them, and at last the text is cut at the blanks outside.

The first pass does not have to know of quoted runs, since what a run of backslashes before a quote
stands for is the same inside and outside of them.

## Main definitions

* `Launcher.CommandLine.Token`, `Launcher.CommandLine.Lexes` — the first pass, as a grammar.
* `Launcher.CommandLine.Mark`, `Launcher.CommandLine.marks` — the second pass.
* `Launcher.CommandLine.cut` — the third pass.
* `Launcher.CommandLine.IsProgram` — where the program name ends.
* `Launcher.CommandLine.Reading` — the words that a line says.

## Main results

* `Launcher.CommandLine.arguments_of_lexes` — the arguments of a text are those of the three passes.
* `Launcher.CommandLine.split_eq_iff_reading` — splitting a line gives the words that it says.
-/

namespace Launcher.CommandLine

/-! ## Backslashes and quotes -/

/-- What is left of a text when its runs of backslashes have been resolved. -/
inductive Token where
  /-- A character that stands for itself. -/
  | letter (c : Char)
  /-- A quote that delimits. -/
  | quote
  /-- A space or a tab. -/
  | blank (c : Char)
  deriving Repr, DecidableEq

/-- Some characters that stand for themselves. -/
def letters (cs : List Char) : List Token :=
  cs.map .letter

/-- **How a text is resolved.** A run of backslashes directly before a quote is halved, and an odd one
makes the quote a letter. No other backslash has a meaning. The run is always taken whole, since a
backslash that has a run to a quote behind it is no letter. -/
inductive Lexes : List Char → List Token → Prop
  | nil : Lexes [] []
  | quote {rest : List Char} {ts : List Token} (k : Nat) (after : Lexes rest ts) :
    Lexes (backslashes (2 * k) ++ '"' :: rest) (letters (backslashes k) ++ .quote :: ts)
  | literal {rest : List Char} {ts : List Token} (k : Nat) (after : Lexes rest ts) :
    Lexes (backslashes (2 * k + 1) ++ '"' :: rest)
      (letters (backslashes k) ++ .letter '"' :: ts)
  | blank {c : Char} {rest : List Char} {ts : List Token} (hblank : isBlank c = true)
      (after : Lexes rest ts) : Lexes (c :: rest) (.blank c :: ts)
  | letter {c : Char} {rest : List Char} {ts : List Token} (hquote : c ≠ '"')
      (hblank : isBlank c = false) (hrun : c = '\\' → ∀ k r, rest ≠ backslashes k ++ '"' :: r)
      (after : Lexes rest ts) : Lexes (c :: rest) (.letter c :: ts)

/-! ## Quoted runs -/

/-- What a token stands for once it is known whether it is in a quoted run. -/
inductive Mark where
  /-- A character of an argument. -/
  | char (c : Char)
  /-- The begin or the end of a quoted run. It belongs to an argument, and adds nothing to it. -/
  | edge
  /-- A blank between arguments. -/
  | gap
  deriving Repr, DecidableEq

/-- The character that a mark adds to an argument. -/
def Mark.char? : Mark → Option Char
  | char c => some c
  | edge | gap => none

/-- **Quoted runs.** A quote begins a run, or ends it; inside of a run two quotes in a row are one
character of it. A blank inside is a character, too. The end of the text ends a run. -/
def marks (quoted : Bool) : List Token → List Mark
  | [] => []
  | .letter c :: ts => .char c :: marks quoted ts
  | .blank c :: ts => (if quoted then .char c else .gap) :: marks quoted ts
  | .quote :: ts =>
    match quoted, ts with
    | true, .quote :: ts => .char '"' :: marks true ts
    | true, ts => .edge :: marks false ts
    | false, ts => .edge :: marks true ts

/-! ## Cutting -/

/-- The text that some marks stand for. -/
def value (ms : List Mark) : List Char :=
  ms.filterMap Mark.char?

/-- **Cutting** at the blanks between arguments. There is no argument between two blanks in a row, but
there is one where nothing is in quotes. -/
def cut (ms : List Mark) : List (List Char) :=
  ((ms.splitOnP (· == .gap)).filter (· ≠ [])).map value

/-! ## Lines -/

/-- The quotes of a text leave a run open: there is an odd number of them. -/
def leavesOpen (text : List Char) : Bool :=
  text.count '"' % 2 == 1

/-- **Where the program name ends**: at the first blank behind which no run is open, or at the end of
the line. -/
structure IsProgram (text rest : List Char) : Prop where
  stops : rest = [] ∨ ∃ c ∈ rest.head?, isBlank c = true ∧ leavesOpen text = false
  first : ∀ before c after, text = before ++ c :: after → isBlank c = true →
    leavesOpen before = true

/-- **What a line says**: a program name, from which all quotes are dropped, and some arguments. -/
def Reading (line : String) (argv : List String) : Prop :=
  ∃ text rest ts, line.toList.dropWhile isBlank = text ++ rest ∧ IsProgram text rest ∧
    Lexes rest ts ∧
    argv.map String.toList = text.filter (· ≠ '"') :: cut (marks false ts)

variable {cs rest after : List Char} {ts us : List Token} {ms : List Mark} {quoted : Bool}
  {result : List Char × List Char}

/-! ## Every text can be resolved -/

/-- One backslash more in a run. -/
lemma backslashes_succ (k : Nat) : backslashes (k + 1) = '\\' :: backslashes k := by
  rw [backslashes, List.replicate_succ, backslashes]

/-- A text begins with a run of backslashes, which may be empty. -/
lemma exists_backslashes (cs : List Char) :
    ∃ k rest, cs = backslashes k ++ rest ∧ rest.head? ≠ some '\\' := by
  induction cs with
  | nil => exact ⟨0, [], rfl, by simp⟩
  | cons c cs ih =>
    by_cases hc : c = '\\'
    · obtain ⟨k, rest, rfl, hrest⟩ := ih
      exact ⟨k + 1, rest, by rw [hc, backslashes_succ, List.cons_append], hrest⟩
    · exact ⟨0, c :: cs, rfl, by simpa using hc⟩

/-- What stands behind a run of backslashes is known. -/
lemma eq_cons_quote_of_backslashes {k k' : Nat} (hrest : rest.head? ≠ some '\\')
    (h : backslashes k ++ rest = backslashes k' ++ '"' :: after) : rest = '"' :: after := by
  induction k generalizing k' with
  | zero =>
    cases k' with
    | zero => exact h
    | succ k' =>
      obtain rfl : rest = backslashes (k' + 1) ++ '"' :: after := h
      rw [backslashes_succ] at hrest
      exact absurd rfl hrest
  | succ k ih =>
    cases k' with
    | zero =>
      rw [backslashes_succ] at h
      cases h
    | succ k' =>
      rw [backslashes_succ, backslashes_succ] at h
      exact ih (List.cons.inj h).2

/-- **Every text can be resolved.**

**Proof sketch.** Induction on the length of the text. A run of backslashes before a quote is taken
whole; else one character is, be it the first of a run. -/
theorem exists_lexes (cs : List Char) : ∃ ts, Lexes cs ts := by
  induction hn : cs.length using Nat.strongRecOn generalizing cs with
  | ind n ih =>
    obtain ⟨k, rest, rfl, hrest⟩ := exists_backslashes cs
    have hlength : (backslashes k ++ rest).length = k + rest.length := by simp [backslashes]
    by_cases hquote : rest.head? = some '"'
    · obtain ⟨after, rfl⟩ := List.head?_eq_some_iff.1 hquote
      obtain ⟨ts, hts⟩ := ih after.length (by rw [List.length_cons] at hlength; omega) after rfl
      obtain ⟨j, rfl | rfl⟩ : ∃ j, k = 2 * j ∨ k = 2 * j + 1 := ⟨k / 2, by omega⟩
      · exact ⟨_, .quote j hts⟩
      · exact ⟨_, .literal j hts⟩
    cases k with
    | zero =>
      rcases rest with _ | ⟨c, rest⟩
      · exact ⟨[], .nil⟩
      · obtain ⟨ts, hts⟩ := ih rest.length (by rw [List.length_cons] at hlength; omega) rest rfl
        cases hblank : isBlank c with
        | true => exact ⟨_, .blank hblank hts⟩
        | false =>
          refine ⟨_, .letter (by simpa using hquote) hblank (fun hc => ?_) hts⟩
          exact absurd (by simp [hc]) hrest
    | succ k =>
      have hlength' : (backslashes k ++ rest).length = k + rest.length := by simp [backslashes]
      obtain ⟨ts, hts⟩ := ih (backslashes k ++ rest).length (by omega) _ rfl
      rw [backslashes_succ, List.cons_append]
      refine ⟨_, .letter (by decide) (by decide) (fun _ k' after heq => hquote ?_) hts⟩
      rw [eq_cons_quote_of_backslashes hrest heq, List.head?_cons]

/-! ## What a resolved text begins with -/

/-- An empty text has no tokens. -/
lemma eq_nil_of_lexes_nil (h : Lexes [] ts) : ts = [] := by
  generalize hcs : ([] : List Char) = cs at h
  cases h with
  | nil => rfl
  | quote k _ => simp at hcs
  | literal k _ => simp at hcs
  | blank _ _ => cases hcs
  | letter _ _ _ _ => cases hcs

/-- A quote that begins a text delimits. -/
lemma exists_of_lexes_quote (h : Lexes ('"' :: rest) ts) :
    ∃ us, ts = .quote :: us ∧ Lexes rest us := by
  generalize hcs : '"' :: rest = cs at h
  cases h with
  | nil => cases hcs
  | quote k after =>
    cases k with
    | zero =>
      cases hcs
      exact ⟨_, rfl, after⟩
    | succ k => cases hcs
  | literal k _ => cases hcs
  | blank hblank _ =>
    cases hcs
    exact absurd hblank (by decide)
  | letter hquote _ _ _ =>
    cases hcs
    exact absurd rfl hquote

/-- What delimits in the beginning is a quote that begins the text. -/
lemma head?_of_lexes_quote (h : Lexes cs (.quote :: us)) : cs.head? = some '"' := by
  generalize hts : Token.quote :: us = ts at h
  cases h with
  | nil => cases hts
  | quote k _ =>
    cases k with
    | zero => rfl
    | succ k => cases hts
  | literal k _ => cases k <;> cases hts
  | blank _ _ => cases hts
  | letter _ _ _ _ => cases hts

/-- A blank that begins a text stays a blank. -/
lemma exists_of_lexes_blank {c : Char} (hblank : isBlank c = true) (h : Lexes (c :: rest) ts) :
    ∃ us, ts = .blank c :: us ∧ Lexes rest us := by
  have hslash : c ≠ '\\' := ne_of_isBlank hblank (by decide)
  have hquote : c ≠ '"' := ne_of_isBlank hblank (by decide)
  generalize hcs : c :: rest = cs at h
  cases h with
  | nil => cases hcs
  | quote k _ =>
    cases k with
    | zero => exact absurd (List.cons.inj hcs).1 hquote
    | succ k => exact absurd (List.cons.inj hcs).1 hslash
  | literal k _ => exact absurd (List.cons.inj hcs).1 hslash
  | blank _ after =>
    cases hcs
    exact ⟨_, rfl, after⟩
  | letter _ hnone _ _ =>
    cases hcs
    rw [hblank] at hnone
    cases hnone

/-! ## Reading an argument -/

/-- Letters are characters, in a run and outside of it. -/
@[simp]
lemma marks_letters_append (quoted : Bool) (cs : List Char) (ts : List Token) :
    marks quoted (letters cs ++ ts) = cs.map .char ++ marks quoted ts := by
  induction cs with
  | nil => rfl
  | cons c cs ih => exact congrArg (Mark.char c :: ·) ih

/-- The text of some characters is made of them. -/
@[simp]
lemma value_map_char (cs : List Char) : value (cs.map .char) = cs := by
  induction cs with
  | nil => rfl
  | cons c cs ih => exact congrArg (c :: ·) ih

/-- The text of marks one after another. -/
@[simp]
lemma value_append (ms ms' : List Mark) : value (ms ++ ms') = value ms ++ value ms' :=
  List.filterMap_append

/-- The edge of a run adds nothing. -/
@[simp]
lemma value_edge : value [.edge] = [] := rfl

/-- A character adds itself. -/
@[simp]
lemma value_char (c : Char) : value [.char c] = [c] := rfl

/-- Inside of a run a quote ends it, if no other follows. -/
lemma marks_quote_of_ne (h : ∀ us, ts ≠ .quote :: us) :
    marks true (.quote :: ts) = .edge :: marks false ts := by
  rw [marks]
  exact fun us hus => h us hus

/-- **An argument at the front of some tokens.** A word has been read up to the end or a blank outside
of quoted runs, and what is left of the text are the tokens that are left. -/
def Takes (quoted : Bool) (ts : List Token) (result : List Char × List Char) : Prop :=
  ∃ ms us, marks quoted ts = ms ++ marks false us ∧ Mark.gap ∉ ms ∧ value ms = result.1 ∧
    Lexes result.2 us ∧ (us = [] ∨ ∃ c vs, us = .blank c :: vs)

/-- More is read before. -/
lemma Takes.prepend {quoted' : Bool} {ts' : List Token} (h : Takes quoted ts result)
    (hmarks : marks quoted' ts' = ms ++ marks quoted ts) (hgap : Mark.gap ∉ ms) :
    Takes quoted' ts' (value ms ++ result.1, result.2) := by
  obtain ⟨ms', us, hms', hgap', hvalue, hrest, hstop⟩ := h
  refine ⟨ms ++ ms', us, ?_, ?_, ?_, hrest, hstop⟩
  · rw [hmarks, hms', List.append_assoc]
  · rw [List.mem_append]
    exact fun hmem => hmem.elim hgap hgap'
  · rw [value_append, hvalue]

/-- The quote that begins a run adds nothing. -/
lemma Takes.of_quote (h : Takes false (.quote :: ts) result) : Takes true ts result := by
  obtain ⟨ms, us, hms, hgap, hvalue, hrest, hstop⟩ := h
  have hedge : Mark.edge :: marks true ts = ms ++ marks false us := hms
  rcases ms with _ | ⟨m, ms⟩
  · obtain rfl | ⟨c, vs, rfl⟩ := hstop <;> cases hedge
  · obtain ⟨rfl, hmarks⟩ := List.cons.inj hedge
    exact ⟨ms, us, hmarks, fun hmem => hgap (List.mem_cons_of_mem _ hmem), hvalue, hrest, hstop⟩

/-- Backslashes that lead to no quote are written as they are. -/
lemma takeArgument_held (held : Nat) (h : ∀ k after, cs ≠ backslashes k ++ '"' :: after) :
    takeArgument quoted held cs =
      (backslashes held ++ (takeArgument quoted 0 cs).1, (takeArgument quoted 0 cs).2) := by
  induction cs generalizing held with
  | nil => simp [takeArgument, backslashes]
  | cons c cs ih =>
    by_cases hslash : c = '\\'
    · subst hslash
      have hcs : ∀ k after, cs ≠ backslashes k ++ '"' :: after := by
        rintro k after rfl
        exact h (k + 1) after (by rw [backslashes_succ, List.cons_append])
      rw [takeArgument, takeArgument, ih (held + 1) hcs, ih (0 + 1) hcs]
      simp [backslashes, List.replicate_succ']
    have hquote : c ≠ '"' := fun hc => h 0 cs (by rw [hc]; rfl)
    cases hstop : isBlank c && !quoted with
    | true =>
      obtain ⟨hblank, hopen⟩ : isBlank c = true ∧ quoted = false := by simpa using hstop
      have hend : EndsWord (c :: cs) := fun d hd => by
        cases hd
        exact hblank
      rw [hopen, takeArgument_of_endsWord held hend, takeArgument_of_endsWord 0 hend]
      simp [backslashes]
    | false =>
      rw [takeArgument_cons held cs hslash hquote hstop, takeArgument_cons 0 cs hslash hquote hstop]
      simp [backslashes]

/-- Inside of a run two quotes are one character. -/
lemma takeArgument_even_quotes (k : Nat) (rest : List Char) :
    takeArgument true (2 * k) ('"' :: '"' :: rest) =
      (backslashes k ++ '"' :: (takeArgument true 0 rest).1, (takeArgument true 0 rest).2) := by
  have heven : ¬ (2 * k) % 2 = 1 := by omega
  have hhalf : (2 * k) / 2 = k := by omega
  rw [takeArgument, if_neg heven, hhalf]

/-- **An argument is read as its tokens say.**

**Proof sketch.** Induction on the grammar. Of two quotes inside of a run the second has been taken for
the begin of another run, which adds nothing (`Launcher.CommandLine.Takes.of_quote`). -/
theorem takes_takeArgument (h : Lexes cs ts) (quoted : Bool) :
    Takes quoted ts (takeArgument quoted 0 cs) := by
  induction h generalizing quoted with
  | nil => exact ⟨[], [], rfl, by simp, rfl, .nil, .inl rfl⟩
  | @quote rest ts k after ih =>
    rw [takeArgument_backslashes, Nat.zero_add]
    cases quoted with
    | false =>
      rw [takeArgument_even_quote k (by simp), Bool.not_false]
      have hmarks : marks false (letters (backslashes k) ++ .quote :: ts) =
          ((backslashes k).map .char ++ [.edge]) ++ marks true ts := by simp [marks]
      simpa using (ih true).prepend hmarks (by simp)
    | true =>
      by_cases hquote : rest.head? = some '"'
      · obtain ⟨rest, rfl⟩ := List.head?_eq_some_iff.1 hquote
        obtain ⟨us, rfl, -⟩ := exists_of_lexes_quote after
        have hskip : takeArgument false 0 ('"' :: rest) = takeArgument true 0 rest :=
          @takeArgument_even_quote false 0 rest (by simp)
        have hopen := ih false
        rw [hskip] at hopen
        have hmarks : marks true (letters (backslashes k) ++ .quote :: .quote :: us) =
            ((backslashes k).map .char ++ [.char '"']) ++ marks true us := by simp [marks]
        rw [takeArgument_even_quotes]
        simpa using hopen.of_quote.prepend hmarks (by simp)
      · have hts : ∀ us, ts ≠ .quote :: us := by
          rintro us rfl
          exact hquote (head?_of_lexes_quote after)
        rw [takeArgument_even_quote k fun _ => hquote, Bool.not_true]
        have hmarks : marks true (letters (backslashes k) ++ .quote :: ts) =
            ((backslashes k).map .char ++ [.edge]) ++ marks false ts := by
          simp [marks_quote_of_ne hts]
        simpa using (ih false).prepend hmarks (by simp)
  | @literal rest ts k after ih =>
    rw [takeArgument_backslashes, Nat.zero_add, takeArgument_odd_quote]
    have hmarks : marks quoted (letters (backslashes k) ++ .letter '"' :: ts) =
        ((backslashes k).map .char ++ [.char '"']) ++ marks quoted ts := by simp [marks]
    simpa using (ih quoted).prepend hmarks (by simp)
  | @blank c rest ts hblank after ih =>
    cases quoted with
    | false =>
      have hend : EndsWord (c :: rest) := fun d hd => by
        cases hd
        exact hblank
      rw [takeArgument_of_endsWord 0 hend]
      exact ⟨[], _, rfl, by simp, rfl, .blank hblank after, .inr ⟨c, ts, rfl⟩⟩
    | true =>
      have hslash : c ≠ '\\' := ne_of_isBlank hblank (by decide)
      have hquote : c ≠ '"' := ne_of_isBlank hblank (by decide)
      rw [takeArgument_cons 0 rest hslash hquote (by simp)]
      have hmarks : marks true (.blank c :: ts) = [.char c] ++ marks true ts := rfl
      exact (ih true).prepend hmarks (by simp)
  | @letter c rest ts hquote hblank hrun after ih =>
    have hmarks : marks quoted (.letter c :: ts) = [.char c] ++ marks quoted ts := rfl
    by_cases hslash : c = '\\'
    · subst hslash
      rw [takeArgument, takeArgument_held (0 + 1) (hrun rfl)]
      exact (ih quoted).prepend hmarks (by simp)
    · rw [takeArgument_cons 0 rest hslash hquote (by simp [hblank])]
      exact (ih quoted).prepend hmarks (by simp)

/-! ## All arguments -/

/-- Without marks there is no argument. -/
lemma cut_nil : cut [] = [] := rfl

/-- A blank in the beginning does not matter. -/
lemma cut_gap (ms : List Mark) : cut (.gap :: ms) = cut ms := by
  have hsplit : (Mark.gap :: ms).splitOnP (· == .gap) = [] :: ms.splitOnP (· == .gap) :=
    List.splitOnP_append_cons [] ms rfl
  rw [cut, hsplit, List.filter_cons_of_neg (by simp), cut]

/-- Among marks without a gap none is one. -/
lemma ne_gap_of_notMem (hgap : Mark.gap ∉ ms) : ∀ m ∈ ms, (m == .gap) = false := by
  intro m hm
  rw [beq_eq_false_iff_ne]
  rintro rfl
  exact hgap hm

/-- Up to the first blank it is one argument. -/
lemma cut_append_gap (ms' : List Mark) (hgap : Mark.gap ∉ ms) (hne : ms ≠ []) :
    cut (ms ++ .gap :: ms') = value ms :: cut ms' := by
  rw [cut, List.splitOnP_append_cons_of_forall_mem (ne_gap_of_notMem hgap) .gap rfl,
    List.filter_cons_of_pos (by simpa using hne), List.map_cons, cut]

/-- Without a blank all is one argument. -/
lemma cut_of_notMem (hgap : Mark.gap ∉ ms) (hne : ms ≠ []) : cut ms = [value ms] := by
  rw [cut, List.splitOnP_eq_singleton (ne_gap_of_notMem hgap),
    List.filter_cons_of_pos (by simpa using hne)]
  rfl

/-- A text that begins with no blank begins with a mark of an argument. -/
lemma exists_mark_of_lexes {c : Char} (hblank : isBlank c = false)
    (h : Lexes (c :: rest) ts) : ∃ m ms, marks false ts = m :: ms ∧ m ≠ .gap := by
  generalize hcs : c :: rest = cs at h
  cases h with
  | nil => cases hcs
  | quote k _ => cases k <;> exact ⟨_, _, rfl, by simp⟩
  | literal k _ => cases k <;> exact ⟨_, _, rfl, by simp⟩
  | blank hc _ =>
    cases hcs
    rw [hblank] at hc
    cases hc
  | letter _ _ _ _ => exact ⟨_, _, rfl, by simp⟩

/-- **The arguments of a text are those of the three passes.**

**Proof sketch.** Induction on the length of the text. A blank in the beginning does not matter to
either side; else an argument is read, with at least one mark, and the induction goes on at the blank
behind it. -/
theorem arguments_of_lexes (h : Lexes cs ts) : arguments cs = cut (marks false ts) := by
  induction hn : cs.length using Nat.strongRecOn generalizing cs ts with
  | ind n ih =>
    subst hn
    rcases cs with _ | ⟨c, rest⟩
    · rw [eq_nil_of_lexes_nil h, arguments_nil]
      rfl
    cases hblank : isBlank c with
    | true =>
      obtain ⟨us, rfl, hrest⟩ := exists_of_lexes_blank hblank h
      have hmarks : marks false (.blank c :: us) = .gap :: marks false us := rfl
      rw [arguments_cons_blank rest hblank, hmarks, cut_gap]
      exact ih rest.length (by simp) hrest rfl
    | false =>
      obtain ⟨ms, us, hms, hgap, hvalue, hrest, hstop⟩ := takes_takeArgument h false
      have hshorter := length_takeArgument_lt rest hblank
      have hne : ms ≠ [] := by
        rintro rfl
        obtain ⟨m, ms', hm, hmark⟩ := exists_mark_of_lexes hblank h
        rw [hm, List.nil_append] at hms
        rcases hstop with rfl | ⟨d, vs, rfl⟩
        · cases hms
        · exact hmark (List.cons.inj hms).1
      rw [arguments_cons rest hblank, ih _ hshorter hrest rfl, hms, ← hvalue]
      rcases hstop with rfl | ⟨d, vs, rfl⟩
      · rw [marks, List.append_nil, cut_of_notMem hgap hne, cut_nil]
      · have hmarks : marks false (.blank d :: vs) = .gap :: marks false vs := rfl
        rw [hmarks, cut_append_gap _ hgap hne, cut_gap]

/-! ## The program name -/

/-- One more quote turns it over whether a run is open. -/
lemma leavesOpen_append_quote (before : List Char) :
    leavesOpen (before ++ ['"']) = !leavesOpen before := by
  rw [Bool.eq_iff_iff]
  simp only [leavesOpen, List.count_append, List.count_singleton_self, beq_iff_eq,
    Bool.not_eq_true', beq_eq_false_iff_ne]
  omega

/-- Any other character leaves a run open, or closed. -/
lemma leavesOpen_append_of_ne (before : List Char) {c : Char} (hc : c ≠ '"') :
    leavesOpen (before ++ [c]) = leavesOpen before := by
  have hcount : [c].count '"' = 0 := List.count_eq_zero.2 (by simpa using hc.symm)
  rw [leavesOpen, List.count_append, hcount, Nat.add_zero, leavesOpen]

/-- **The program name is read as far as it goes**, behind some text that has been read. -/
theorem takeProgram_of_stops (before : List Char) {text : List Char}
    (hstops : rest = [] ∨ ∃ c ∈ rest.head?, isBlank c = true ∧ leavesOpen (before ++ text) = false)
    (hfirst : ∀ u c v, text = u ++ c :: v → isBlank c = true → leavesOpen (before ++ u) = true) :
    takeProgram (leavesOpen before) (text ++ rest) = (text.filter (· ≠ '"'), rest.tail) := by
  induction text generalizing before with
  | nil =>
    rcases hstops with rfl | ⟨c, hc, hblank, hclosed⟩
    · rfl
    · rw [List.append_nil] at hclosed
      have hend : EndsWord rest := fun d hd => by
        rw [Option.mem_unique hd hc]
        exact hblank
      rw [hclosed, List.nil_append, takeProgram_of_endsWord hend]
      rfl
  | cons c text ih =>
    -- what has been read grows by the first character
    have hstops : rest = [] ∨
        ∃ d ∈ rest.head?, isBlank d = true ∧ leavesOpen (before ++ [c] ++ text) = false := by
      rwa [List.append_assoc, List.singleton_append]
    have ih := ih (before ++ [c]) hstops fun u d v hu hd => by
      rw [List.append_assoc, List.singleton_append]
      exact hfirst (c :: u) d v (by rw [hu, List.cons_append]) hd
    rw [List.cons_append, takeProgram]
    by_cases hquote : c = '"'
    · subst hquote
      rw [leavesOpen_append_quote] at ih
      rw [if_pos rfl, ih, List.filter_cons_of_neg (by simp)]
    · have hinside : (isBlank c && !leavesOpen before) = false := by
        cases hblank : isBlank c with
        | false => rfl
        | true =>
          have hopen := hfirst [] c text rfl hblank
          rw [List.append_nil] at hopen
          rw [hopen]
          rfl
      rw [leavesOpen_append_of_ne before hquote] at ih
      rw [if_neg hquote, hinside, if_neg (by simp), ih, List.filter_cons_of_pos (by simpa using hquote)]

/-- Behind any text there is a program name. -/
lemma exists_stop (before cs : List Char) :
    ∃ text rest, cs = text ++ rest ∧
      (rest = [] ∨ ∃ c ∈ rest.head?, isBlank c = true ∧ leavesOpen (before ++ text) = false) ∧
      ∀ u c v, text = u ++ c :: v → isBlank c = true → leavesOpen (before ++ u) = true := by
  induction cs generalizing before with
  | nil => exact ⟨[], [], rfl, .inl rfl, by simp⟩
  | cons c cs ih =>
    cases hstop : isBlank c && !leavesOpen before with
    | true =>
      obtain ⟨hblank, hclosed⟩ : isBlank c = true ∧ leavesOpen before = false := by
        simpa using hstop
      refine ⟨[], c :: cs, rfl, .inr ⟨c, rfl, hblank, ?_⟩, by simp⟩
      rwa [List.append_nil]
    | false =>
      obtain ⟨text, rest, rfl, hstops, hfirst⟩ := ih (before ++ [c])
      refine ⟨c :: text, rest, rfl, ?_, fun u d v hu hd => ?_⟩
      · rwa [List.append_assoc, List.singleton_append] at hstops
      · rcases u with _ | ⟨e, u⟩
        · obtain ⟨rfl, -⟩ := List.cons.inj hu
          rw [hd, Bool.true_and, Bool.not_eq_false'] at hstop
          rwa [List.append_nil]
        · obtain ⟨rfl, htext⟩ := List.cons.inj hu
          have hopen := hfirst u d v htext hd
          rwa [List.append_assoc, List.singleton_append] at hopen

/-! ## Whole lines -/

/-- Behind the program name no word goes on. -/
lemma IsProgram.endsWord {text : List Char} (hprogram : IsProgram text rest) : EndsWord rest := by
  rcases hprogram.stops with rfl | ⟨c, hc, hblank, -⟩
  · exact fun d hd => by cases hd
  · intro d hd
    rwa [Option.mem_unique hd hc]

/-- The blank that ends a word does not matter to the arguments behind it. -/
lemma arguments_tail (h : EndsWord rest) : arguments rest.tail = arguments rest := by
  cases rest with
  | nil => rfl
  | cons c rest => exact (arguments_cons_blank rest (h c rfl)).symm

/-- What is read of a line whose program name is known. -/
lemma words_of_isProgram {line text : List Char} (hline : skipBlanks line = text ++ rest)
    (hprogram : IsProgram text rest) :
    words line = if (text.filter (· ≠ '"')).isEmpty && rest.tail.isEmpty then []
      else text.filter (· ≠ '"') :: arguments rest := by
  have htake : takeProgram false (text ++ rest) = (text.filter (· ≠ '"'), rest.tail) :=
    takeProgram_of_stops [] hprogram.stops hprogram.first
  rw [words, hline, htake, ← arguments_tail hprogram.endsWord]

/-- What a line says does not depend on how it is taken apart. -/
lemma words_eq_of_isProgram {line text : List Char} (hline : skipBlanks line = text ++ rest)
    (hprogram : IsProgram text rest) (hlexes : Lexes rest ts) (hne : words line ≠ []) :
    words line = text.filter (· ≠ '"') :: cut (marks false ts) := by
  rw [words_of_isProgram hline hprogram, arguments_of_lexes hlexes] at hne ⊢
  exact if_neg fun hempty => hne (if_pos hempty)

/-- **Splitting a line gives the words that it says**, and no others, if it gives any.

**Proof sketch.** A line has a program name (`Launcher.CommandLine.exists_stop`) and the rest of it can
be resolved (`Launcher.CommandLine.exists_lexes`), so it says something. Whatever it says are the words
that are read. -/
theorem split_eq_iff_reading {line : String} (h : split line ≠ []) (argv : List String) :
    split line = argv ↔ Reading line argv := by
  have hne : words line.toList ≠ [] := fun hnone => h (by rw [split, hnone, List.map_nil])
  have hsplit : (split line).map String.toList = words line.toList := by simp [split]
  constructor
  · rintro rfl
    obtain ⟨text, rest, hline, hstops, hfirst⟩ := exists_stop [] (skipBlanks line.toList)
    obtain ⟨ts, hts⟩ := exists_lexes rest
    refine ⟨text, rest, ts, hline, ⟨hstops, hfirst⟩, hts, ?_⟩
    rw [hsplit]
    exact words_eq_of_isProgram hline ⟨hstops, hfirst⟩ hts hne
  · rintro ⟨text, rest, ts, hline, hprogram, hts, hargv⟩
    rw [← words_eq_of_isProgram hline hprogram hts hne, ← hsplit] at hargv
    exact ((List.map_inj_right fun _ _ => String.toList_inj.1).1 hargv).symm

/-- A line with quotes inside of the program name, three backslashes before a quote, two quotes in a
run, and a run that the end of the line ends. -/
theorem split_eq_iff_reading_of_openRun :
    split "p\"q r\"s\\ \\\\\\\"a \"b\"\"c\\\\\"\t d\"e f" ≠ [] ∧
      Reading "p\"q r\"s\\ \\\\\\\"a \"b\"\"c\\\\\"\t d\"e f"
        ["pq rs\\", "\\\"a", "b\"c\\", "de f"] := by
  have hsplit : split "p\"q r\"s\\ \\\\\\\"a \"b\"\"c\\\\\"\t d\"e f" =
      ["pq rs\\", "\\\"a", "b\"c\\", "de f"] := by decide +kernel
  have hne : split "p\"q r\"s\\ \\\\\\\"a \"b\"\"c\\\\\"\t d\"e f" ≠ [] := by
    rw [hsplit]
    exact List.cons_ne_nil _ _
  exact ⟨hne, (split_eq_iff_reading hne _).1 hsplit⟩

end Launcher.CommandLine
