import Mathlib.Tactic.Lemma
import Launcher.CommandLine.Join
/-!
# Words that are written are read back

A command line is joined from words and split into words again. Writing an argument delays its
backslashes until it is known whether a quote follows, and reading delays them in the same way, so
the two are related by the number of backslashes that are held back. What follows an argument is
the end of the line or a blank; neither can be taken into the argument.

The round trip has one exception: the empty program name alone is written as two quotes, which
are read as no words at all.

## Main definitions

* `Launcher.CommandLine.EndsWord` — a text that begins with no character of a word.

## Main results

* `Launcher.CommandLine.takeArgument_quoteWord` — a quoted argument is read back from the front of
  a text.
* `Launcher.CommandLine.words_line` — the words of a line are the program name and the arguments
  that it was written from.
* `Launcher.CommandLine.join_round_trip` — which words have a line, and which of them are the words
  of their line.
-/

namespace Launcher.CommandLine

/-- A text before which a word ends: it is empty, or begins with a blank. -/
def EndsWord (rest : List Char) : Prop :=
  ∀ c ∈ rest.head?, isBlank c = true

/-- What ends a word does not begin with a quote. -/
lemma EndsWord.ne_quote {rest : List Char} (h : EndsWord rest) : rest.head? ≠ some '"' := by
  intro hq
  exact absurd (h '"' hq) (by decide)

/-- A blank is none of the other characters. -/
lemma ne_of_isBlank {c d : Char} (h : isBlank c = true) (hd : isBlank d = false) : c ≠ d := by
  rintro rfl
  rw [h] at hd
  cases hd

/-! ## Reading an argument, character by character -/

/-- Backslashes are held back until it is known what follows. -/
lemma takeArgument_backslashes (quoted : Bool) (held k : Nat) (rest : List Char) :
    takeArgument quoted held (backslashes k ++ rest) = takeArgument quoted (held + k) rest := by
  induction k generalizing held with
  | zero => simp [backslashes]
  | succ k ih =>
    have hcons : backslashes (k + 1) ++ rest = '\\' :: (backslashes k ++ rest) := by
      simp [backslashes, List.replicate_succ]
    rw [hcons, takeArgument, ih, Nat.add_assoc, Nat.add_comm 1 k]

/-- A character that is neither a backslash nor a quote releases the backslashes before it, and
belongs to the argument unless it is a blank outside a quoted run. -/
lemma takeArgument_cons {quoted : Bool} {c : Char} (held : Nat) (rest : List Char)
    (hslash : c ≠ '\\') (hquote : c ≠ '"') (hblank : (isBlank c && !quoted) = false) :
    takeArgument quoted held (c :: rest) =
      (backslashes held ++ c :: (takeArgument quoted 0 rest).1,
        (takeArgument quoted 0 rest).2) := by
  rw [takeArgument]
  · simp [hblank]
  · exact hslash
  · exact hquote

/-- Before the end of a word reading stops, outside a quoted run. -/
lemma takeArgument_of_endsWord (held : Nat) {rest : List Char} (h : EndsWord rest) :
    takeArgument false held rest = (backslashes held, rest) := by
  cases rest with
  | nil => rfl
  | cons c rest =>
    have hc : isBlank c = true := h c rfl
    rw [takeArgument]
    · simp [hc]
    · exact ne_of_isBlank hc (by decide)
    · exact ne_of_isBlank hc (by decide)

/-- An odd number of backslashes makes the quote behind them a character of the argument. -/
lemma takeArgument_odd_quote (quoted : Bool) (k : Nat) (rest : List Char) :
    takeArgument quoted (2 * k + 1) ('"' :: rest) =
      (backslashes k ++ '"' :: (takeArgument quoted 0 rest).1,
        (takeArgument quoted 0 rest).2) := by
  have hodd : (2 * k + 1) % 2 = 1 := by omega
  have hhalf : (2 * k + 1) / 2 = k := by omega
  rw [takeArgument.eq_def]
  simp only [hodd, hhalf, if_true]

/-- A quote behind an even number of backslashes opens or closes a quoted run, unless it is inside
of one and another quote follows. -/
lemma takeArgument_even_quote {quoted : Bool} (k : Nat) {rest : List Char}
    (h : quoted = true → rest.head? ≠ some '"') :
    takeArgument quoted (2 * k) ('"' :: rest) =
      (backslashes k ++ (takeArgument (!quoted) 0 rest).1,
        (takeArgument (!quoted) 0 rest).2) := by
  have heven : ¬ (2 * k) % 2 = 1 := by omega
  have hhalf : (2 * k) / 2 = k := by omega
  rw [takeArgument, if_neg heven, hhalf]
  intro rest' hq hr
  exact h hq (by simp [hr])

/-! ## Reading back what was written -/

/-- **The inside of a quoted argument is read back.** The writer holds back `held` backslashes, of
which the reader knows nothing yet.

**Proof sketch.** Induction on the argument. A backslash is held back by one more. Before a quote
the writer doubles what it holds back and adds one, which the reader halves; before any other
character both keep the number. At the end the writer doubles it once more, and the closing quote
ends the run, since no quote follows. -/
theorem takeArgument_escape (held : Nat) (word : List Char) {rest : List Char}
    (h : EndsWord rest) :
    takeArgument true 0 (escape held word ++ rest) = (backslashes held ++ word, rest) := by
  induction word generalizing held with
  | nil =>
    have hclose : takeArgument true (2 * held) ('"' :: rest) = (backslashes held, rest) := by
      rw [takeArgument_even_quote held fun _ => h.ne_quote, Bool.not_true,
        takeArgument_of_endsWord 0 h]
      simp [backslashes]
    rw [escape, List.append_assoc, takeArgument_backslashes, Nat.zero_add, Nat.mul_comm held 2]
    simpa using hclose
  | cons c word ih =>
    by_cases hslash : c = '\\'
    · subst hslash
      rw [escape, ih (held + 1)]
      simp [backslashes, List.replicate_succ']
    by_cases hquote : c = '"'
    · subst hquote
      rw [escape, List.append_assoc, takeArgument_backslashes, Nat.zero_add, Nat.mul_comm held 2,
        List.cons_append, takeArgument_odd_quote, ih 0]
      simp [backslashes]
    · rw [escape, List.append_assoc, takeArgument_backslashes, Nat.zero_add, List.cons_append,
        takeArgument_cons held _ hslash hquote (by simp), ih 0]
      · simp [backslashes]
      · exact hslash
      · exact hquote

/-- An argument without blanks and quotes is read back as it stands, its backslashes too. -/
lemma takeArgument_plain (held : Nat) (word : List Char) {rest : List Char}
    (hword : ∀ c ∈ word, isBlank c = false ∧ c ≠ '"') (h : EndsWord rest) :
    takeArgument false held (word ++ rest) = (backslashes held ++ word, rest) := by
  induction word generalizing held with
  | nil => simpa using takeArgument_of_endsWord held h
  | cons c word ih =>
    obtain ⟨hblank, hquote⟩ := hword c (by simp)
    have ih := fun held => ih held fun d hd => hword d (by simp [hd])
    by_cases hslash : c = '\\'
    · subst hslash
      rw [List.cons_append, takeArgument, ih (held + 1)]
      simp [backslashes, List.replicate_succ']
    · rw [List.cons_append, takeArgument_cons held _ hslash hquote (by simp [hblank]), ih 0]
      simp [backslashes]

/-- A word needs no quotes if it is there and has no blank and no quote in it. -/
lemma needsQuotes_eq_false_iff {word : List Char} :
    needsQuotes word = false ↔ word ≠ [] ∧ ∀ c ∈ word, isBlank c = false ∧ c ≠ '"' := by
  simp [needsQuotes]

/-- **A written argument is read back from the front of a text,** and nothing of the text behind
it is consumed. -/
theorem takeArgument_quoteWord (word : List Char) {rest : List Char} (h : EndsWord rest) :
    takeArgument false 0 (quoteWord word ++ rest) = (word, rest) := by
  unfold quoteWord
  split
  · rw [List.cons_append, takeArgument_even_quote 0 (by simp), Bool.not_false,
      takeArgument_escape 0 word h]
    simp [backslashes]
  · rename_i hneeds
    have hword := (needsQuotes_eq_false_iff.1 (Bool.eq_false_iff.2 hneeds)).2
    rw [takeArgument_plain 0 word hword h]
    simp [backslashes]

/-- A written argument begins with a character that is no blank. -/
lemma exists_quoteWord_eq_cons (word : List Char) :
    ∃ c rest, quoteWord word = c :: rest ∧ isBlank c = false := by
  unfold quoteWord
  split
  · exact ⟨'"', _, rfl, by decide⟩
  · rename_i hneeds
    obtain ⟨hne, hword⟩ := needsQuotes_eq_false_iff.1 (Bool.eq_false_iff.2 hneeds)
    obtain ⟨c, rest, rfl⟩ := List.exists_cons_of_ne_nil hne
    exact ⟨c, rest, rfl, (hword c (by simp)).1⟩

/-- A written argument is never empty. -/
lemma quoteWord_ne_nil (word : List Char) : quoteWord word ≠ [] := by
  obtain ⟨c, rest, hc, -⟩ := exists_quoteWord_eq_cons word
  simp [hc]

/-! ## All arguments of a line -/

/-- The arguments of a line as they are written, a space before each. -/
def writeArguments (words : List (List Char)) : List Char :=
  words.flatMap fun word => ' ' :: quoteWord word

/-- Written arguments end the word in front of them. -/
lemma endsWord_writeArguments (words : List (List Char)) : EndsWord (writeArguments words) := by
  cases words with
  | nil => simp [EndsWord, writeArguments]
  | cons word words => simp [EndsWord, writeArguments, isBlank]

/-- An empty text has no arguments. -/
lemma arguments_nil : arguments [] = [] := by
  rw [arguments.eq_def]
  split
  · rfl
  · rename_i heq
    simp [skipBlanks] at heq

/-- A text that begins with no blank begins with an argument. -/
lemma arguments_cons {c : Char} (rest : List Char) (h : isBlank c = false) :
    arguments (c :: rest) =
      (takeArgument false 0 (c :: rest)).1 :: arguments (takeArgument false 0 (c :: rest)).2 := by
  rw [arguments.eq_def]
  have hskip : skipBlanks (c :: rest) = c :: rest := by simp [skipBlanks, h]
  split
  · rename_i heq
    simp [hskip] at heq
  · rename_i heq
    rw [hskip] at heq
    cases heq
    rfl

/-- Blanks at the front of a text do not matter to its arguments. -/
lemma arguments_eq_of_skipBlanks_eq {cs ds : List Char} (h : skipBlanks cs = skipBlanks ds) :
    arguments cs = arguments ds := by
  rw [arguments.eq_def, arguments.eq_def ds]
  split
  · next hcs =>
    split
    · rfl
    · next hds =>
      rw [h, hds] at hcs
      cases hcs
  · next hcs =>
    split
    · next hds =>
      rw [h, hds] at hcs
      cases hcs
    · next hds =>
      rw [h, hds] at hcs
      cases hcs
      rfl

/-- A blank at the front of a text does not matter. -/
lemma arguments_cons_blank {c : Char} (rest : List Char) (h : isBlank c = true) :
    arguments (c :: rest) = arguments rest :=
  arguments_eq_of_skipBlanks_eq (by simp [skipBlanks, h])

/-- **Written arguments are read back.**

**Proof sketch.** Induction on the arguments. The space before the first is skipped, the argument
is read up to the space before the next or the end, and there the others are left. -/
theorem arguments_writeArguments (words : List (List Char)) :
    arguments (writeArguments words) = words := by
  induction words with
  | nil => exact arguments_nil
  | cons word words ih =>
    obtain ⟨c, rest, hword, hc⟩ := exists_quoteWord_eq_cons word
    have htake := takeArgument_quoteWord word (endsWord_writeArguments words)
    have hline :
        writeArguments (word :: words) = ' ' :: (quoteWord word ++ writeArguments words) := by
      simp [writeArguments]
    rw [hline, arguments_cons_blank _ (by decide)]
    rw [hword, List.cons_append] at htake ⊢
    rw [arguments_cons _ hc, htake, ih]

/-! ## The program name -/

/-- Outside quotes a program name ends at a blank, which is consumed, or at the end. -/
lemma takeProgram_of_endsWord {rest : List Char} (h : EndsWord rest) :
    takeProgram false rest = ([], rest.tail) := by
  cases rest with
  | nil => rfl
  | cons c rest =>
    have hc : isBlank c = true := h c rfl
    have hquote : c ≠ '"' := ne_of_isBlank hc (by decide)
    simp [takeProgram, hc, hquote]

/-- A program name without quotes is read as it stands, up to where reading it in its state
ends. -/
lemma takeProgram_append {quoted : Bool} (program rest : List Char)
    (hquote : '"' ∉ program) (hblank : quoted = true ∨ ∀ c ∈ program, isBlank c = false) :
    takeProgram quoted (program ++ rest) =
      (program ++ (takeProgram quoted rest).1, (takeProgram quoted rest).2) := by
  induction program with
  | nil => simp
  | cons c program ih =>
    have hc : c ≠ '"' := fun h => hquote (by simp [h])
    have hstay : (isBlank c && !quoted) = false := by
      rcases hblank with hq | hb
      · simp [hq]
      · simp [hb c (by simp)]
    have ih := ih (fun h => hquote (by simp [h])) (hblank.imp id fun h d hd => h d (by simp [hd]))
    rw [List.cons_append, takeProgram, if_neg hc, hstay, ih]
    simp

/-- **A written program name is read back from the front of a line,** and the space behind it is
consumed. -/
theorem takeProgram_quoteProgram {program rest : List Char} (hquote : '"' ∉ program)
    (h : EndsWord rest) :
    takeProgram false (quoteProgram program ++ rest) = (program, rest.tail) := by
  unfold quoteProgram
  split
  · have hclose : takeProgram true ('"' :: rest) = ([], rest.tail) := by
      simp [takeProgram, takeProgram_of_endsWord h]
    have hopen : takeProgram false ('"' :: (program ++ '"' :: rest)) = (program, rest.tail) := by
      rw [takeProgram, if_pos rfl, Bool.not_false, takeProgram_append _ _ hquote (.inl rfl), hclose]
      simp
    simpa using hopen
  · rename_i hplain
    have hblank : ∀ c ∈ program, isBlank c = false := by
      intro c hc
      simp only [Bool.or_eq_true, List.any_eq_true, not_or, not_exists, not_and] at hplain
      exact Bool.eq_false_iff.2 (hplain.2 c hc)
    rw [takeProgram_append _ _ hquote (.inr hblank), takeProgram_of_endsWord h]
    simp

/-- A written program name begins with a character that is no blank. -/
lemma skipBlanks_quoteProgram (program rest : List Char) :
    skipBlanks (quoteProgram program ++ rest) = quoteProgram program ++ rest := by
  unfold quoteProgram
  split
  · simp [skipBlanks, isBlank]
  · rename_i hplain
    cases program with
    | nil => simp at hplain
    | cons c program =>
      have hc : isBlank c = false := by
        simp only [Bool.or_eq_true, List.any_eq_true, not_or, not_exists, not_and] at hplain
        exact Bool.eq_false_iff.2 (hplain.2 c (by simp))
      simp [skipBlanks, hc]

/-! ## Whole lines -/

/-- **The words of a written line** are those it was written from, except that the empty program
name alone gives none.

**Proof sketch.** The program name is read back and the space behind it consumed. What is left
then are the written arguments without the first space, which does not matter to reading them.
Nothing is left exactly when there are no arguments, since a written argument is not empty. -/
theorem words_line {program : List Char} (args : List (List Char)) (hquote : '"' ∉ program) :
    words (line program args) = if program = [] ∧ args = [] then [] else program :: args := by
  have htake := takeProgram_quoteProgram hquote (endsWord_writeArguments args)
  have htail : arguments (writeArguments args).tail = arguments (writeArguments args) := by
    cases args with
    | nil => rfl
    | cons word args => exact (arguments_cons_blank _ (by decide)).symm
  have hargs : arguments (writeArguments args).tail = args := by
    rw [htail, arguments_writeArguments]
  have hempty : (writeArguments args).tail = [] ↔ args = [] := by
    cases args <;> simp [writeArguments, quoteWord_ne_nil]
  have hline : line program args = quoteProgram program ++ writeArguments args := rfl
  rw [words, hline, skipBlanks_quoteProgram, htake]
  simp [hargs, hempty]

/-- The words of the line of some words. -/
lemma split_of_join {parts : List String} {text : String} (h : join parts = .ok text) :
    split text = if parts = [""] then [] else parts := by
  cases parts with
  | nil => simp [join] at h
  | cons program args =>
    simp only [join] at h
    split at h
    · cases h
    rename_i hquote
    cases h
    have hquote : '"' ∉ program.toList := by simpa using hquote
    rw [split, String.toList_ofList, words_line _ hquote]
    have hempty : program.toList = [] ∧ args.map String.toList = [] ↔ program :: args = [""] := by
      simp
    simp only [hempty]
    split
    · rfl
    · simp

/-! ## The characters of a line -/

/-- Escaping adds backslashes and quotes only. -/
lemma mem_escape_iff {c : Char} (hquote : c ≠ '"') (hback : c ≠ '\\') (held : Nat)
    (word : List Char) : c ∈ escape held word ↔ c ∈ word := by
  fun_induction escape held word with
  | case1 held => simp [backslashes, hquote, hback]
  | case2 held rest ih => simp [ih, hback]
  | case3 held rest ih => simp [ih, backslashes, hquote, hback]
  | case4 held d rest hd hd' ih => simp [ih, backslashes, hback]

/-- A written argument has the same characters, but for quotes and backslashes. -/
lemma mem_quoteWord_iff {c : Char} (hquote : c ≠ '"') (hback : c ≠ '\\') (word : List Char) :
    c ∈ quoteWord word ↔ c ∈ word := by
  unfold quoteWord
  split
  · simp [mem_escape_iff hquote hback, hquote]
  · rfl

/-- A written program name has the same characters, but for quotes. -/
lemma mem_quoteProgram_iff {c : Char} (hquote : c ≠ '"') (program : List Char) :
    c ∈ quoteProgram program ↔ c ∈ program := by
  unfold quoteProgram
  split
  · simp [hquote]
  · rfl

/-- A written line has the characters of its words, but for quotes, backslashes and spaces. -/
lemma mem_line_iff {c : Char} (hquote : c ≠ '"') (hback : c ≠ '\\') (hspace : c ≠ ' ')
    (program : List Char) (args : List (List Char)) :
    c ∈ line program args ↔ c ∈ program ∨ ∃ word ∈ args, c ∈ word := by
  simp [line, mem_quoteProgram_iff hquote, mem_quoteWord_iff hquote hback, hspace]

/-- Joining adds spaces, quotes and backslashes only: any other character of the line is one of a
word, and the other way round. -/
lemma mem_of_join_iff {parts : List String} {text : String} {c : Char} (h : join parts = .ok text)
    (hquote : c ≠ '"') (hback : c ≠ '\\') (hspace : c ≠ ' ') :
    c ∈ text.toList ↔ ∃ word ∈ parts, c ∈ word.toList := by
  cases parts with
  | nil => simp [join] at h
  | cons program args =>
    simp only [join] at h
    split at h
    · cases h
    cases h
    rw [String.toList_ofList, mem_line_iff hquote hback hspace]
    constructor
    · rintro (hc | ⟨_, hmap, hc⟩)
      · exact ⟨program, by simp, hc⟩
      · obtain ⟨word, hword, rfl⟩ := List.mem_map.1 hmap
        exact ⟨word, List.mem_cons_of_mem _ hword, hc⟩
    · rintro ⟨word, hword, hc⟩
      rcases List.mem_cons.1 hword with rfl | hword
      · exact .inl hc
      · exact .inr ⟨_, List.mem_map_of_mem hword, hc⟩

/-! ## The round trip -/

/-- **The round trip of words through a line.** A list without a word, or with a quote in the
program name, has no line. Every other list has one, and it splits into the list again, with the
one exception of the empty program name alone, whose line has no words. -/
theorem join_round_trip (parts : List String) :
    ((parts = [] ∨ ∃ program ∈ parts.head?, '"' ∈ program.toList) ∧
      ∃ fault, join parts = .error fault) ∨
    ((∃ program ∈ parts.head?, '"' ∉ program.toList) ∧
      ∃ text, join parts = .ok text ∧ split text = if parts = [""] then [] else parts) := by
  cases parts with
  | nil => exact .inl ⟨.inl rfl, _, rfl⟩
  | cons program args =>
    by_cases hquote : '"' ∈ program.toList
    · exact .inl ⟨.inr ⟨program, rfl, hquote⟩, .quoteInProgram program, by simp [join, hquote]⟩
    · obtain ⟨text, htext⟩ : ∃ text, join (program :: args) = .ok text := by simp [join, hquote]
      exact .inr ⟨⟨program, rfl, hquote⟩, text, htext, split_of_join htext⟩

/-- The empty program name alone does not come back from its line. -/
theorem split_line_of_emptyProgram :
    '"' ∉ "".toList ∧ join [""] = .ok "\"\"" ∧ split "\"\"" ≠ [""] := by
  have hjoin : join [""] = .ok "\"\"" := by rfl
  refine ⟨by decide, hjoin, ?_⟩
  rw [split_of_join hjoin]
  simp

end Launcher.CommandLine
