import Mathlib.Data.List.TakeWhile
import Launcher.Proofs.CommandLine.Append
/-!
# What is kept of a line

The words of a line, one after the other, are the line with some characters left out. Left out are
quotes, blanks, and backslashes that stand in a run before a quote. Nothing else is, and nothing is
brought in, doubled or moved.

There is a line with quotes in it of which nothing at all is kept: when the program name is made of
quotes alone and the line ends with it. Such a line has no words, as has one of blanks.

## Main definitions

* `Launcher.CommandLine.Keeps` — a text with some of its characters left out.
* `Launcher.CommandLine.isPlain` — a character that is never left out.
* `Launcher.CommandLine.NamesNothing` — a line that ends with a program name of quotes alone.

## Main results

* `Launcher.CommandLine.keeps_split` — the words of a line are what is kept of it.
* `Launcher.CommandLine.quote_notMem_of_head?_split` — there is no quote in a program name.
* `Launcher.CommandLine.split_eq_nil_iff` — which lines have no words.
-/

namespace Launcher.CommandLine

variable {cs ds es rest text : List Char} {c : Char}

/-! ## Leaving out -/

/-- **A text and what is kept of it.** A quote and a blank may be left out, and so may a backslash, if
nothing but backslashes is between it and a quote. -/
inductive Keeps : List Char → List Char → Prop
  | nil : Keeps [] []
  | keep {cs ds : List Char} (c : Char) (after : Keeps cs ds) : Keeps (c :: cs) (c :: ds)
  | quote {cs ds : List Char} (after : Keeps cs ds) : Keeps ('"' :: cs) ds
  | blank {c : Char} {cs ds : List Char} (hblank : isBlank c = true) (after : Keeps cs ds) :
    Keeps (c :: cs) ds
  | backslash {cs ds : List Char} (hrun : ∃ k rest, cs = backslashes k ++ '"' :: rest)
      (after : Keeps cs ds) : Keeps ('\\' :: cs) ds

/-- A character that is never left out. -/
def isPlain (c : Char) : Bool :=
  c != '"' && c != '\\' && !isBlank c

namespace Keeps

/-- What is kept stays in its order. -/
lemma sublist (h : Keeps cs ds) : ds.Sublist cs := by
  induction h with
  | nil => exact .slnil
  | keep c _ ih => exact ih.cons_cons c
  | quote _ ih => exact ih.cons '"'
  | blank _ _ ih => exact ih.cons _
  | backslash _ _ ih => exact ih.cons '\\'

/-- All other characters are kept, once and in their order. -/
lemma filter_isPlain (h : Keeps cs ds) : ds.filter isPlain = cs.filter isPlain := by
  induction h with
  | nil => rfl
  | keep c _ ih => rw [List.filter_cons, List.filter_cons, ih]
  | quote _ ih => rw [ih, List.filter_cons_of_neg (by decide)]
  | blank hblank _ ih => rw [ih, List.filter_cons_of_neg (by simp [isPlain, hblank])]
  | backslash _ _ ih => rw [ih, List.filter_cons_of_neg (by decide)]

/-- What is kept of a text is kept behind another. -/
lemma append_left (us : List Char) (h : Keeps cs ds) : Keeps (us ++ cs) (us ++ ds) := by
  induction us with
  | nil => exact h
  | cons u us ih => exact .keep u ih

/-- Of a run of backslashes before a quote any number may be kept. -/
lemma run {j k : Nat} (hjk : j ≤ k) (h : Keeps ('"' :: cs) ds) :
    Keeps (backslashes k ++ '"' :: cs) (backslashes j ++ ds) := by
  induction k generalizing j with
  | zero =>
    obtain rfl : j = 0 := by omega
    exact h
  | succ k ih =>
    rw [backslashes_succ, List.cons_append]
    by_cases hall : j = k + 1
    · rw [hall, backslashes_succ, List.cons_append]
      exact .keep _ (ih (Nat.le_refl k))
    · exact .backslash ⟨k, cs, rfl⟩ (ih (by omega))

end Keeps

/-! ## What is kept by reading -/

/-- **Of an argument** the reader keeps what it may, if it keeps what it may of the text behind it. The
backslashes that are held back stand before the text.

**Proof sketch.** Induction along the reading. Only a quote decides how many of the backslashes held back
are left out, and it stands directly behind them. -/
theorem keeps_takeArgument {quoted : Bool} {held : Nat} (h : Keeps (takeArgument quoted held cs).2 ds) :
    Keeps (backslashes held ++ cs) ((takeArgument quoted held cs).1 ++ ds) := by
  induction quoted, held, cs using takeArgument_induction with
  | nil quoted held => exact h.append_left (backslashes held)
  | slash quoted held cs ih =>
    have hrun : backslashes held ++ '\\' :: cs = backslashes (held + 1) ++ cs := by
      simp [backslashes, List.replicate_succ']
    rw [hrun]
    exact ih h
  | literal quoted k cs ih =>
    rw [takeArgument_odd_quote] at h ⊢
    rw [List.append_assoc]
    exact Keeps.run (by omega) (.keep '"' (ih h))
  | doubled k cs ih =>
    rw [takeArgument_even_quotes] at h ⊢
    rw [List.append_assoc]
    exact Keeps.run (by omega) (.quote (.keep '"' (ih h)))
  | quote quoted k cs hlone ih =>
    rw [takeArgument_even_quote k hlone] at h ⊢
    rw [List.append_assoc]
    exact Keeps.run (by omega) (.quote (ih h))
  | stop held c cs hblank =>
    rw [takeArgument_of_endsWord held (endsWord_cons hblank cs)] at h ⊢
    exact h.append_left (backslashes held)
  | char quoted held c cs hslash hquote hstay ih =>
    rw [takeArgument_cons held cs hslash hquote hstay] at h ⊢
    rw [List.append_assoc]
    exact Keeps.append_left _ (.keep c (ih h))

/-- **Of all arguments.** -/
theorem keeps_arguments (cs : List Char) : Keeps cs (arguments cs).flatten := by
  induction hn : cs.length using Nat.strongRecOn generalizing cs with
  | ind n ih =>
    subst hn
    rcases cs with _ | ⟨c, cs⟩
    · rw [arguments_nil]
      exact .nil
    cases hblank : isBlank c with
    | true =>
      rw [arguments_cons_blank cs hblank]
      exact .blank hblank (ih cs.length (by simp) cs rfl)
    | false =>
      have hshorter := length_takeArgument_lt cs hblank
      rw [arguments_cons cs hblank, List.flatten_cons]
      exact keeps_takeArgument (ih _ hshorter _ rfl)

/-- **Of a program name.** The blank behind it is left out. -/
theorem keeps_takeProgram {quoted : Bool} (h : Keeps (takeProgram quoted cs).2 ds) :
    Keeps cs ((takeProgram quoted cs).1 ++ ds) := by
  fun_induction takeProgram quoted cs with
  | case1 quoted => exact h
  | case2 quoted rest ih => exact .quote (ih h)
  | case3 quoted c rest hquote hstop =>
    have hblank : isBlank c = true := (Bool.and_eq_true_iff.1 hstop).1
    exact .blank hblank h
  | case4 quoted c rest hquote hstay ih => exact .keep c (ih h)

/-- All quotes are dropped from a program name. -/
lemma quote_notMem_takeProgram (quoted : Bool) (cs : List Char) :
    '"' ∉ (takeProgram quoted cs).1 := by
  fun_induction takeProgram quoted cs with
  | case1 quoted => exact List.not_mem_nil
  | case2 quoted rest ih => exact ih
  | case3 quoted c rest hquote hstop => exact List.not_mem_nil
  | case4 quoted c rest hquote hstay ih =>
    rw [List.mem_cons, not_or]
    exact ⟨Ne.symm hquote, ih⟩

/-- The blanks in front are left out. -/
lemma Keeps.of_skipBlanks (h : Keeps (skipBlanks cs) ds) : Keeps cs ds := by
  induction cs with
  | nil => exact h
  | cons c cs ih =>
    cases hblank : isBlank c with
    | true => exact .blank hblank (ih (by simpa [skipBlanks, hblank] using h))
    | false => simpa [skipBlanks, hblank] using h

/-- The words of a line are its program name and its arguments, unless both are empty. -/
lemma words_cases (line : List Char) : ∃ program rest,
    takeProgram false (skipBlanks line) = (program, rest) ∧
      ((program = [] ∧ rest = [] ∧ words line = []) ∨
        ((program ≠ [] ∨ rest ≠ []) ∧ words line = program :: arguments rest)) := by
  refine ⟨_, _, rfl, ?_⟩
  rw [words]
  cases takeProgram false (skipBlanks line) with
  | mk program rest => cases program <;> cases rest <;> simp

/-- The words of a line are what is kept of it, all in one. -/
lemma keeps_words (line : List Char) : Keeps line (words line).flatten := by
  obtain ⟨program, rest, htake, hcases⟩ := words_cases line
  have hrest : Keeps (takeProgram false (skipBlanks line)).2 (arguments rest).flatten := by
    rw [htake]
    exact keeps_arguments rest
  have hall := (keeps_takeProgram hrest).of_skipBlanks
  rw [htake] at hall
  rcases hcases with ⟨rfl, rfl, hwords⟩ | ⟨-, hwords⟩
  · rw [arguments_nil] at hall
    rwa [hwords]
  · rwa [hwords, List.flatten_cons]

/-- **The words of a line are what is kept of it.** -/
theorem keeps_split (line : String) : Keeps line.toList ((split line).flatMap String.toList) := by
  have hwords : (split line).flatMap String.toList = (words line.toList).flatten := by
    simp [split, List.flatMap_map, List.flatMap_id']
  rw [hwords]
  exact keeps_words line.toList

/-- There is no quote in a program name. -/
lemma quote_notMem_of_head?_split {line program : String} (h : program ∈ (split line).head?) :
    '"' ∉ program.toList := by
  obtain ⟨name, rest, htake, hcases⟩ := words_cases line.toList
  have hnone := quote_notMem_takeProgram false (skipBlanks line.toList)
  rw [htake] at hnone
  rcases hcases with ⟨-, -, hwords⟩ | ⟨-, hwords⟩
  · rw [split, hwords] at h
    cases h
  · rw [split, hwords] at h
    cases h
    rwa [String.toList_ofList]

/-! ## Lines without words -/

/-- `k` quotes. -/
def quotes (k : Nat) : List Char :=
  List.replicate k '"'

/-- **The line ends with a program name that is made of quotes alone.** Behind it there is nothing, or,
if the quotes leave no run open, one blank. -/
def NamesNothing (line : String) : Prop :=
  ∃ blanks k tail, line.toList = blanks ++ (quotes k ++ tail) ∧ (∀ c ∈ blanks, isBlank c = true) ∧
    0 < k ∧ (tail = [] ∨ k % 2 = 0 ∧ ∃ c, isBlank c = true ∧ tail = [c])

/-- In a row of quotes there is nothing else. -/
lemma eq_quote_of_mem_quotes {k : Nat} (h : c ∈ quotes k) : c = '"' :=
  List.eq_of_mem_replicate h

/-- An odd number of quotes leaves a run open. -/
lemma leavesOpen_quotes (k : Nat) : leavesOpen (quotes k) = (k % 2 == 1) := by
  rw [leavesOpen, quotes, List.count_replicate_self]

/-- Nothing is left of a row of quotes without its quotes. -/
lemma filter_quotes (k : Nat) : (quotes k).filter (· ≠ '"') = [] := by
  refine List.filter_eq_nil_iff.2 fun c hc => ?_
  simp [eq_quote_of_mem_quotes hc]

/-- A text without any other character is made of quotes. -/
lemma eq_quotes_of_filter (h : text.filter (· ≠ '"') = []) : text = quotes text.length :=
  List.eq_replicate_of_mem fun c hc => by simpa using List.filter_eq_nil_iff.1 h c hc

/-- Quotes are a program name, if there is nothing behind them, or a blank outside of a run. -/
lemma isProgram_quotes {k : Nat}
    (h : rest = [] ∨ k % 2 = 0 ∧ ∃ c, isBlank c = true ∧ rest = [c]) : IsProgram (quotes k) rest := by
  have hnone : ∀ c ∈ quotes k, isBlank c = false := fun c hc => by
    rw [eq_quote_of_mem_quotes hc]
    decide
  refine isProgram_of_forall hnone ?_
  rcases h with rfl | ⟨heven, c, hblank, rfl⟩
  · exact .inl rfl
  · refine .inr ⟨c, rfl, hblank, ?_⟩
    rw [leavesOpen_quotes, heven]
    rfl

/-- What is left behind the blanks does not begin with one. -/
lemma head?_skipBlanks (h : c ∈ (skipBlanks cs).head?) : isBlank c = false := by
  obtain ⟨rest, hrest⟩ := List.head?_eq_some_iff.1 h
  exact isBlank_of_skipBlanks_eq_cons hrest

/-- Of a line without words nothing is kept but quotes that end it. -/
lemma exists_quotes_of_words_eq_nil {line : List Char} (h : words line = []) :
    ∃ k tail, skipBlanks line = quotes k ++ tail ∧
      (tail = [] ∨ k % 2 = 0 ∧ ∃ c, isBlank c = true ∧ tail = [c]) := by
  obtain ⟨text, rest, hskip, hstops, hfirst⟩ := exists_stop [] (skipBlanks line)
  have hwords := words_of_isProgram hskip ⟨hstops, hfirst⟩
  rw [h] at hwords
  have hempty : (text.filter (· ≠ '"')).isEmpty = true ∧ rest.tail.isEmpty = true := by
    rw [← Bool.and_eq_true_iff]
    by_contra hsome
    rw [if_neg hsome] at hwords
    cases hwords
  have htext := eq_quotes_of_filter (List.isEmpty_iff.1 hempty.1)
  refine ⟨text.length, rest, by rw [← htext]; exact hskip, ?_⟩
  rcases hstops with rfl | ⟨c, hc, hblank, hclosed⟩
  · exact .inl rfl
  · obtain ⟨tail, rfl⟩ := List.head?_eq_some_iff.1 hc
    obtain rfl : tail = [] := List.isEmpty_iff.1 hempty.2
    rw [List.nil_append, htext, leavesOpen_quotes, beq_eq_false_iff_ne] at hclosed
    exact .inr ⟨by omega, c, hblank, rfl⟩

/-- **The lines without words** are those of blanks alone, and those that end with a program name of
quotes alone.

**Proof sketch.** There are no words when the program name is empty and the line ends with it. The name
is empty when it is made of quotes alone. Without any quote there is not even a blank behind it, since
those in front have been skipped. -/
theorem split_eq_nil_iff (line : String) :
    split line = [] ↔ (∀ c ∈ line.toList, isBlank c = true) ∨ NamesNothing line := by
  rw [split, List.map_eq_nil_iff]
  constructor
  · intro hnone
    have hline : line.toList.takeWhile isBlank ++ skipBlanks line.toList = line.toList :=
      List.takeWhile_append_dropWhile
    have hblanks : ∀ c ∈ line.toList.takeWhile isBlank, isBlank c = true :=
      fun c hc => List.mem_takeWhile_imp hc
    obtain ⟨k, tail, hskip, htail⟩ := exists_quotes_of_words_eq_nil hnone
    rcases Nat.eq_zero_or_pos k with rfl | hk
    · rcases htail with rfl | ⟨-, c, hblank, rfl⟩
      · rw [hskip] at hline
        refine .inl fun c hc => hblanks c ?_
        rw [← hline] at hc
        simpa [quotes] using hc
      · have hhead : c ∈ (skipBlanks line.toList).head? := by
          rw [hskip]
          rfl
        rw [head?_skipBlanks hhead] at hblank
        cases hblank
    · exact .inr ⟨_, k, tail, by rw [← hskip, hline], hblanks, hk, htail⟩
  · rintro (hblanks | ⟨blanks, k, tail, hline, hblanks, hk, htail⟩)
    · by_contra hsome
      exact skipBlanks_ne_nil hsome (List.dropWhile_eq_nil_iff.2 hblanks)
    · have hskip : skipBlanks line.toList = quotes k ++ tail := by
        obtain ⟨j, rfl⟩ : ∃ j, k = j + 1 := ⟨k - 1, by omega⟩
        rw [skipBlanks, hline, List.dropWhile_append_of_pos hblanks, quotes, List.replicate_succ,
          List.cons_append, List.dropWhile_cons_of_neg (by decide)]
      have hempty : tail.tail = [] := by
        rcases htail with rfl | ⟨-, c, -, rfl⟩ <;> rfl
      rw [words_of_isProgram hskip (isProgram_quotes htail), filter_quotes, hempty]
      rfl

/-- A second blank behind the quotes makes them the empty program name. -/
example : split "\t\"\"\"\" " = [] ∧ split "\t\"\"\"\"  " = [""] ∧ split "\"\"\" " = [" "] := by
  decide +kernel

end Launcher.CommandLine
