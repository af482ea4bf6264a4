import Launcher.Proofs.CommandLine.Grammar
/-!
# Lines are split piece by piece

Where a line stands outside of quoted runs, a blank ends whatever has been read so far: a program name,
an argument, a run of backslashes. What comes behind the blank is then read as it would be behind any
other program. So the words of a longer line are those of its first part, and then the arguments of
the rest.

Whether a line stands outside is told by a flag that every quote turns over, unless it is a character
of an argument. Two quotes inside of a run turn it over twice, as they should: the run goes on.

## Main definitions

* `Launcher.CommandLine.leavesRun` — the flag behind a text of arguments.
* `Launcher.CommandLine.EndsOutside` — a line that ends outside of quoted runs.

## Main results

* `Launcher.CommandLine.takeArgument_append`, `Launcher.CommandLine.arguments_append` — reading stops
  where a closed text does.
* `Launcher.CommandLine.words_append` — the words of a line in two parts.
* `Launcher.CommandLine.endsOutside_of_join` — a line that was joined from words ends outside.
* `Launcher.CommandLine.split_append_blanks` — all of this for whole lines.
-/

namespace Launcher.CommandLine

/-! ## The flag -/

/-- A quoted run is open behind a text of arguments. `quoted` says whether one is open before the text,
and `held` counts the backslashes before it. A quote behind an odd number of backslashes is a character,
and any other opens a run or closes it. -/
def leavesRun (quoted : Bool) (held : Nat) : List Char → Bool
  | [] => quoted
  | '\\' :: rest => leavesRun quoted (held + 1) rest
  | '"' :: rest => leavesRun (if held % 2 = 1 then quoted else !quoted) 0 rest
  | _ :: rest => leavesRun quoted 0 rest

/-- **The line ends outside of quoted runs.** The program name has an even number of quotes, be it that
the line ends with it or not, and no run is open behind the arguments. -/
def EndsOutside (line : String) : Prop :=
  ∃ text rest, line.toList.dropWhile isBlank = text ++ rest ∧ IsProgram text rest ∧
    leavesOpen text = false ∧ leavesRun false 0 rest = false

variable {quoted : Bool} {held : Nat} {cs rest text : List Char}

/-- Backslashes are counted until something else comes. -/
lemma leavesRun_backslashes (quoted : Bool) (held k : Nat) (rest : List Char) :
    leavesRun quoted held (backslashes k ++ rest) = leavesRun quoted (held + k) rest := by
  induction k generalizing held with
  | zero => rfl
  | succ k ih => rw [backslashes_succ, List.cons_append, leavesRun, ih, Nat.add_assoc, Nat.add_comm 1 k]

/-- A character that is neither a backslash nor a quote leaves the flag as it is. -/
lemma leavesRun_cons {c : Char} (held : Nat) (rest : List Char) (hslash : c ≠ '\\')
    (hquote : c ≠ '"') : leavesRun quoted held (c :: rest) = leavesRun quoted 0 rest := by
  rw [leavesRun]
  · exact hslash
  · exact hquote

/-- Before the end of a word it does not matter how many backslashes there have been. -/
lemma leavesRun_of_endsWord (held : Nat) (h : EndsWord rest) :
    leavesRun quoted held rest = leavesRun quoted 0 rest := by
  cases rest with
  | nil => rfl
  | cons c rest =>
    have hslash : c ≠ '\\' := ne_of_isBlank (h c rfl) (by decide)
    have hquote : c ≠ '"' := ne_of_isBlank (h c rfl) (by decide)
    rw [leavesRun_cons held rest hslash hquote, leavesRun_cons 0 rest hslash hquote]

/-- The flag behind two texts, of which the second begins no word. -/
lemma leavesRun_append (h : EndsWord rest) :
    leavesRun quoted held (cs ++ rest) = leavesRun (leavesRun quoted held cs) 0 rest := by
  fun_induction leavesRun quoted held cs with
  | case1 quoted held => exact leavesRun_of_endsWord held h
  | case2 quoted held cs ih => exact ih
  | case3 quoted held cs ih => exact ih
  | case4 quoted held c cs hslash hquote ih =>
    rw [List.cons_append, leavesRun_cons held _ hslash hquote]
    exact ih

/-! ## Reading an argument, case by case -/

/-- **Induction along the reading of an argument.** There is one case for each way in which reading goes
on or stops; the number of backslashes before a quote comes as it is needed to rewrite. -/
theorem takeArgument_induction {P : Bool → Nat → List Char → Prop}
    (nil : ∀ quoted held, P quoted held [])
    (slash : ∀ quoted held cs, P quoted (held + 1) cs → P quoted held ('\\' :: cs))
    (literal : ∀ quoted k cs, P quoted 0 cs → P quoted (2 * k + 1) ('"' :: cs))
    (doubled : ∀ k cs, P true 0 cs → P true (2 * k) ('"' :: '"' :: cs))
    (quote : ∀ quoted k cs, (quoted = true → cs.head? ≠ some '"') → P (!quoted) 0 cs →
      P quoted (2 * k) ('"' :: cs))
    (stop : ∀ held c cs, isBlank c = true → P false held (c :: cs))
    (char : ∀ quoted held c cs, c ≠ '\\' → c ≠ '"' → (isBlank c && !quoted) = false → P quoted 0 cs →
      P quoted held (c :: cs))
    (quoted : Bool) (held : Nat) (cs : List Char) : P quoted held cs := by
  induction quoted, held, cs using takeArgument.induct with
  | case1 quoted held => exact nil quoted held
  | case2 quoted held cs ih => exact slash quoted held cs ih
  | case3 quoted held cs hodd _ _ _ ih =>
    obtain ⟨k, rfl⟩ : ∃ k, held = 2 * k + 1 := ⟨held / 2, by omega⟩
    exact literal quoted k cs ih
  | case4 held heven cs _ _ _ ih =>
    obtain ⟨k, rfl⟩ : ∃ k, held = 2 * k := ⟨held / 2, by omega⟩
    exact doubled k cs ih
  | case5 quoted held heven cs _ _ _ hlone ih =>
    obtain ⟨k, rfl⟩ : ∃ k, held = 2 * k := ⟨held / 2, by omega⟩
    refine quote quoted k cs (fun hquoted hhead => ?_) ih
    obtain ⟨rest, hrest⟩ := List.head?_eq_some_iff.1 hhead
    exact hlone rest hquoted hrest
  | case6 quoted held c cs hslash hquote hstop =>
    obtain ⟨hblank, rfl⟩ : isBlank c = true ∧ quoted = false := by simpa using hstop
    exact stop held c cs hblank
  | case7 quoted held c cs hslash hquote hstay _ _ _ ih =>
    exact char quoted held c cs hslash hquote (Bool.eq_false_iff.2 hstay) ih

/-- A text that begins with a blank ends the word before it. -/
lemma endsWord_cons {c : Char} (hblank : isBlank c = true) (cs : List Char) :
    EndsWord (c :: cs) := fun d hd => by
  cases hd
  exact hblank

/-! ## Reading stops where a closed text does -/

/-- **An argument is not continued** behind a text that leaves no run open.

**Proof sketch.** Induction along the reading. The one place where reading looks ahead is a quote that
closes a run, and there it does not find another quote at the front of what is appended. -/
theorem takeArgument_append (h : EndsWord rest) (hclosed : leavesRun quoted held cs = false) :
    takeArgument quoted held (cs ++ rest) =
      ((takeArgument quoted held cs).1, (takeArgument quoted held cs).2 ++ rest) := by
  induction quoted, held, cs using takeArgument_induction with
  | nil quoted held =>
    obtain rfl : quoted = false := hclosed
    exact takeArgument_of_endsWord held h
  | slash quoted held cs ih => exact ih hclosed
  | literal quoted k cs ih =>
    rw [leavesRun, if_pos (by omega)] at hclosed
    rw [List.cons_append, takeArgument_odd_quote, takeArgument_odd_quote, ih hclosed]
  | doubled k cs ih =>
    have hclosed : leavesRun true 0 cs = false := by simpa [leavesRun] using hclosed
    rw [List.cons_append, List.cons_append, takeArgument_even_quotes, takeArgument_even_quotes,
      ih hclosed]
  | quote quoted k cs hlone ih =>
    have hclosed : leavesRun (!quoted) 0 cs = false := by simpa [leavesRun] using hclosed
    have hlone' : quoted = true → (cs ++ rest).head? ≠ some '"' := by
      cases cs with
      | nil => exact fun _ => h.ne_quote
      | cons c cs => exact hlone
    rw [List.cons_append, takeArgument_even_quote k hlone', takeArgument_even_quote k hlone,
      ih hclosed]
  | stop held c cs hblank =>
    rw [List.cons_append, takeArgument_of_endsWord held (endsWord_cons hblank _),
      takeArgument_of_endsWord held (endsWord_cons hblank cs), List.cons_append]
  | char quoted held c cs hslash hquote hstay ih =>
    rw [leavesRun_cons held cs hslash hquote] at hclosed
    rw [List.cons_append, takeArgument_cons held _ hslash hquote hstay,
      takeArgument_cons held cs hslash hquote hstay, ih hclosed]

/-- What is left behind an argument leaves no run open, if the whole text does not. -/
lemma leavesRun_takeArgument (hclosed : leavesRun quoted held cs = false) :
    leavesRun false 0 (takeArgument quoted held cs).2 = false := by
  induction quoted, held, cs using takeArgument_induction with
  | nil quoted held => rfl
  | slash quoted held cs ih => exact ih hclosed
  | literal quoted k cs ih =>
    rw [leavesRun, if_pos (by omega)] at hclosed
    rw [takeArgument_odd_quote]
    exact ih hclosed
  | doubled k cs ih =>
    have hclosed : leavesRun true 0 cs = false := by simpa [leavesRun] using hclosed
    rw [takeArgument_even_quotes]
    exact ih hclosed
  | quote quoted k cs hlone ih =>
    have hclosed : leavesRun (!quoted) 0 cs = false := by simpa [leavesRun] using hclosed
    rw [takeArgument_even_quote k hlone]
    exact ih hclosed
  | stop held c cs hblank =>
    have hend : EndsWord (c :: cs) := endsWord_cons hblank cs
    rw [takeArgument_of_endsWord held hend]
    rwa [leavesRun_of_endsWord held hend] at hclosed
  | char quoted held c cs hslash hquote hstay ih =>
    rw [leavesRun_cons held cs hslash hquote] at hclosed
    rw [takeArgument_cons held cs hslash hquote hstay]
    exact ih hclosed

/-- **The arguments of a text in two parts**, of which the first leaves no run open.

**Proof sketch.** Induction on the length of the first part. A blank in the beginning does not matter;
else an argument is read, and what is left of the first part behind it is closed, too. -/
theorem arguments_append (h : EndsWord rest) (hclosed : leavesRun false 0 cs = false) :
    arguments (cs ++ rest) = arguments cs ++ arguments rest := by
  induction hn : cs.length using Nat.strongRecOn generalizing cs with
  | ind n ih =>
    subst hn
    rcases cs with _ | ⟨c, cs⟩
    · rw [arguments_nil, List.nil_append, List.nil_append]
    rw [List.cons_append]
    cases hblank : isBlank c with
    | true =>
      have hclosed : leavesRun false 0 cs = false := by
        rwa [leavesRun_cons 0 cs (ne_of_isBlank hblank (by decide))
          (ne_of_isBlank hblank (by decide))] at hclosed
      rw [arguments_cons_blank _ hblank, arguments_cons_blank _ hblank]
      exact ih cs.length (by simp) hclosed rfl
    | false =>
      have hshorter := length_takeArgument_lt cs hblank
      have hread := takeArgument_append h hclosed
      rw [List.cons_append] at hread
      rw [arguments_cons _ hblank, arguments_cons _ hblank, hread,
        ih _ hshorter (leavesRun_takeArgument hclosed) rfl, List.cons_append]

/-! ## Lines in two parts -/

/-- A program name that is closed stops where no word goes on. -/
lemma EndsWord.stops (h : EndsWord rest) (hclosed : leavesOpen text = false) :
    rest = [] ∨ ∃ c ∈ rest.head?, isBlank c = true ∧ leavesOpen text = false := by
  cases rest with
  | nil => exact .inl rfl
  | cons c rest => exact .inr ⟨c, rfl, h c rfl, hclosed⟩

/-- A text without blanks is a program name if it stops. -/
lemma isProgram_of_forall (hnone : ∀ c ∈ text, isBlank c = false)
    (hstops : rest = [] ∨ ∃ c ∈ rest.head?, isBlank c = true ∧ leavesOpen text = false) :
    IsProgram text rest := by
  refine ⟨hstops, fun before c after htext hblank => ?_⟩
  have hc : c ∈ text := by rw [htext]; simp
  rw [hnone c hc] at hblank
  cases hblank

/-- What is appended to the rest does not change the program name, if it is closed. -/
lemma IsProgram.append {more : List Char} (hprogram : IsProgram text rest) (h : EndsWord more)
    (hclosed : leavesOpen text = false) : IsProgram text (rest ++ more) := by
  refine ⟨EndsWord.stops ?_ hclosed, hprogram.first⟩
  cases rest with
  | nil => exact h
  | cons c rest => exact endsWord_cons (hprogram.endsWord c rfl) _

/-- A line with words has a character that is no blank. -/
lemma skipBlanks_ne_nil {line : List Char} (h : words line ≠ []) : skipBlanks line ≠ [] := by
  intro hnone
  rw [words, hnone] at h
  exact h rfl

/-- **The words of a line in two parts**, of which the first ends outside of quoted runs and the second
begins with a blank.

**Proof sketch.** The program name is the same, since it is closed. Behind it the arguments are those of
the first part and then those of the second. There is a word in the longer line, since there is one in
the first part: the program name is not empty, or something stands behind it. -/
theorem words_append {line more : List Char} (hline : skipBlanks line = text ++ rest)
    (hprogram : IsProgram text rest) (hclosed : leavesOpen text = false)
    (hrest : leavesRun false 0 rest = false) (hne : words line ≠ []) (h : EndsWord more) :
    words (line ++ more) = words line ++ arguments more := by
  have hlonger : skipBlanks (line ++ more) = text ++ (rest ++ more) := by
    have hsome : ¬ (line.dropWhile isBlank).isEmpty = true := by
      rw [List.isEmpty_iff]
      exact skipBlanks_ne_nil hne
    rw [skipBlanks, List.dropWhile_append, if_neg hsome, ← List.append_assoc, ← hline, skipBlanks]
  have hmore : rest.tail.isEmpty = false → (rest ++ more).tail.isEmpty = false := by
    cases rest with
    | nil => exact fun htail => by cases htail
    | cons c rest =>
      intro htail
      cases rest with
      | nil => cases htail
      | cons d rest => rfl
  rw [words_of_isProgram hline hprogram] at hne ⊢
  rw [words_of_isProgram hlonger (hprogram.append h hclosed), arguments_append h hrest]
  cases hname : (text.filter (· ≠ '"')).isEmpty with
  | false => rfl
  | true =>
    cases htail : rest.tail.isEmpty with
    | true =>
      rw [hname, htail] at hne
      exact absurd rfl hne
    | false =>
      rw [hmore htail]
      rfl

/-- The words of a line that begins with a program name of one letter. -/
lemma words_letter_append {more : List Char} (h : EndsWord more) :
    words ('p' :: more) = ['p'] :: arguments more := by
  have hprogram : IsProgram ['p'] more :=
    isProgram_of_forall (by simp [isBlank]) (h.stops (by decide))
  exact words_of_isProgram rfl hprogram

/-! ## Joined lines -/

/-- Without quotes a run stays open, or closed. -/
lemma leavesRun_of_notMem (held : Nat) (h : '"' ∉ cs) : leavesRun quoted held cs = quoted := by
  fun_induction leavesRun quoted held cs with
  | case1 quoted held => rfl
  | case2 quoted held cs ih => exact ih fun hmem => h (List.mem_cons_of_mem _ hmem)
  | case3 quoted held cs ih => exact absurd List.mem_cons_self h
  | case4 quoted held c cs hslash hquote ih => exact ih fun hmem => h (List.mem_cons_of_mem _ hmem)

/-- The closing quote of a written argument turns the flag over, and nothing else inside of it does. -/
lemma leavesRun_escape (quoted : Bool) (held : Nat) (word : List Char) :
    leavesRun quoted 0 (escape held word) = !quoted := by
  fun_induction escape held word with
  | case1 held =>
    rw [leavesRun_backslashes]
    simp [leavesRun]
  | case2 held word ih => exact ih
  | case3 held word ih =>
    rw [leavesRun_backslashes, leavesRun, if_pos (by omega)]
    exact ih
  | case4 held c word hslash hquote ih =>
    rw [leavesRun_backslashes, leavesRun_cons _ _ hslash hquote]
    exact ih

/-- A written argument leaves no run open. -/
lemma leavesRun_quoteWord (word : List Char) : leavesRun false 0 (quoteWord word) = false := by
  unfold quoteWord
  split
  · rw [leavesRun, if_neg (by decide)]
    exact leavesRun_escape true 0 word
  · rename_i hneeds
    have hword := (needsQuotes_eq_false_iff.1 (Bool.eq_false_iff.2 hneeds)).2
    exact leavesRun_of_notMem 0 fun hmem => (hword _ hmem).2 rfl

/-- Written arguments leave no run open. -/
lemma leavesRun_writeArguments (words : List (List Char)) :
    leavesRun false 0 (writeArguments words) = false := by
  induction words with
  | nil => rfl
  | cons word words ih =>
    have hline :
        writeArguments (word :: words) = ' ' :: (quoteWord word ++ writeArguments words) := by
      simp [writeArguments]
    rw [hline, leavesRun_cons 0 _ (by decide) (by decide),
      leavesRun_append (endsWord_writeArguments words), leavesRun_quoteWord, ih]

/-- Without quotes no run is left open. -/
lemma leavesOpen_of_notMem (h : '"' ∉ text) : leavesOpen text = false := by
  rw [leavesOpen, List.count_eq_zero.2 h]
  rfl

/-- **A written program name** ends where it was written to end, and is closed. -/
theorem isProgram_quoteProgram {program : List Char} (hquote : '"' ∉ program) (h : EndsWord rest) :
    IsProgram (quoteProgram program) rest ∧ leavesOpen (quoteProgram program) = false := by
  have hopen (u : List Char) (hu : '"' ∉ u) : leavesOpen ('"' :: u) = true := by
    rw [leavesOpen, List.count_cons_self, List.count_eq_zero.2 hu]
    rfl
  unfold quoteProgram
  split
  · have hclosed : leavesOpen ('"' :: (program ++ ['"'])) = false := by
      rw [← List.cons_append, leavesOpen_append_quote, hopen program hquote]
      rfl
    refine ⟨⟨h.stops hclosed, fun before c after htext hblank => ?_⟩, hclosed⟩
    have hc : c ≠ '"' := ne_of_isBlank hblank (by decide)
    rcases before with _ | ⟨d, u⟩
    · exact absurd (List.cons.inj htext).1.symm hc
    · obtain ⟨rfl, htail⟩ := List.cons.inj htext
      -- the blank stands before the closing quote, so no other quote is before it
      rcases List.append_eq_append_iff.1 htail with ⟨v, -, hlast⟩ | ⟨v, hprogram, -⟩
      · rcases v with _ | ⟨d, v⟩
        · exact absurd (List.cons.inj hlast).1.symm hc
        · have hshort := congrArg List.length hlast
          simp at hshort
      · refine hopen u fun hmem => hquote ?_
        rw [hprogram]
        exact List.mem_append_left _ hmem
  · rename_i hplain
    have hnone : ∀ c ∈ program, isBlank c = false := by
      simp only [Bool.or_eq_true, List.any_eq_true, not_or, not_exists, not_and] at hplain
      exact fun c hc => Bool.eq_false_iff.2 (hplain.2 c hc)
    have hclosed := leavesOpen_of_notMem hquote
    exact ⟨isProgram_of_forall hnone (h.stops hclosed), hclosed⟩

/-- **A line that was joined from words ends outside of quoted runs.** -/
theorem endsOutside_of_join {parts : List String} {line : String} (h : join parts = .ok line) :
    EndsOutside line := by
  cases parts with
  | nil => cases h
  | cons program args =>
    rw [join] at h
    split at h
    · cases h
    rename_i hquote
    have hquote : '"' ∉ program.toList := by simpa using hquote
    cases h
    obtain ⟨hprogram, hclosed⟩ :=
      isProgram_quoteProgram hquote (endsWord_writeArguments (args.map String.toList))
    refine ⟨_, _, ?_, hprogram, hclosed, leavesRun_writeArguments _⟩
    rw [String.toList_ofList]
    exact skipBlanks_quoteProgram _ _

/-! ## Whole lines -/

/-- In blanks alone there is no argument. -/
lemma arguments_of_blanks (h : ∀ c ∈ cs, isBlank c = true) : arguments cs = [] := by
  induction cs with
  | nil => exact arguments_nil
  | cons c cs ih =>
    rw [arguments_cons_blank cs (h c List.mem_cons_self)]
    exact ih fun d hd => h d (List.mem_cons_of_mem _ hd)

/-- The words of a line that ends outside of quoted runs, and of what is appended to it. -/
lemma split_append {line : String} (more : String) (hne : split line ≠ []) (hline : EndsOutside line)
    (h : EndsWord more.toList) :
    split (line ++ more) = split line ++ (arguments more.toList).map String.ofList := by
  obtain ⟨text, rest, hskip, hprogram, hclosed, hrest⟩ := hline
  have hwords : words line.toList ≠ [] := fun hnone => hne (by rw [split, hnone, List.map_nil])
  rw [split, String.toList_append, words_append hskip hprogram hclosed hrest hwords h, List.map_append,
    split]

/-- **Lines are split piece by piece.** Behind a line that has a word and ends outside of quoted runs, a
blank and whatever follows it bring in the arguments that they would bring in behind any other program.
Blanks alone bring in nothing. A line that was joined from words is such a line, so its words stay what
they are.

**Proof sketch.** What is appended begins no word, so it adds its own arguments and changes nothing
(`Launcher.CommandLine.words_append`). -/
theorem split_append_blanks {blanks : String} (hne : blanks ≠ "")
    (hblanks : ∀ c ∈ blanks.toList, isBlank c = true) (more : String) :
    (∀ line, split line ≠ [] → EndsOutside line →
      split (line ++ blanks ++ more) = split line ++ (split ("p" ++ blanks ++ more)).tail ∧
      split (line ++ blanks) = split line) ∧
    (∀ parts line, parts ≠ [""] → join parts = .ok line →
      split (line ++ blanks ++ more) = parts ++ (split ("p" ++ blanks ++ more)).tail) := by
  have hbegin : ∀ t : String, EndsWord (blanks ++ t).toList := by
    intro t c hc
    obtain ⟨d, bs, hd⟩ : ∃ d bs, blanks.toList = d :: bs :=
      List.exists_cons_of_ne_nil fun hnil => hne (String.toList_eq_nil_iff.1 hnil)
    rw [String.toList_append, hd] at hc
    cases hc
    exact hblanks c (by rw [hd]; exact List.mem_cons_self)
  have hrest : (split ("p" ++ blanks ++ more)).tail =
      (arguments (blanks ++ more).toList).map String.ofList := by
    have htext : ("p" ++ blanks ++ more).toList = 'p' :: (blanks ++ more).toList := by
      rw [String.append_assoc, String.toList_append]
      rfl
    rw [split, htext, words_letter_append (hbegin more), List.map_cons, List.tail_cons]
  have hline (line : String) (hsome : split line ≠ []) (hends : EndsOutside line) :
      split (line ++ blanks ++ more) = split line ++ (split ("p" ++ blanks ++ more)).tail := by
    rw [String.append_assoc, split_append _ hsome hends (hbegin more), hrest]
  refine ⟨fun line hsome hends => ⟨hline line hsome hends, ?_⟩, fun parts line hparts hjoin => ?_⟩
  · have hblank : EndsWord blanks.toList := by simpa using hbegin ""
    rw [split_append _ hsome hends hblank, arguments_of_blanks hblanks, List.map_nil, List.append_nil]
  · have hsplit : split line = parts := by rw [split_of_join hjoin, if_neg hparts]
    have hsome : split line ≠ [] := by
      rw [hsplit]
      rintro rfl
      cases hjoin
    rw [hline line hsome (endsOutside_of_join hjoin), hsplit]

/-- A line with an escaped quote and a backslash at its end, two blanks, and a text that leaves a run
open. The joined words end in a backslash, too. -/
theorem split_append_blanks_of_openRun :
    " \t" ≠ "" ∧ (∀ c ∈ " \t".toList, isBlank c = true) ∧
      split "p\"q\" a\\\"b \"c d\"\\" ≠ [] ∧ EndsOutside "p\"q\" a\\\"b \"c d\"\\" ∧
      split ("p\"q\" a\\\"b \"c d\"\\" ++ " \t" ++ "e \"f g") = ["pq", "a\"b", "c d\\", "e", "f g"] ∧
      split ("p\"q\" a\\\"b \"c d\"\\" ++ " \t") = ["pq", "a\"b", "c d\\"] ∧
      join ["", "x\\"] = .ok "\"\" x\\" ∧
      split ("\"\" x\\" ++ " \t" ++ "e \"f g") = ["", "x\\", "e", "f g"] := by
  have hsplit : split "p\"q\" a\\\"b \"c d\"\\" = ["pq", "a\"b", "c d\\"] := by decide +kernel
  have hmore : split ("p" ++ " \t" ++ "e \"f g") = ["p", "e", "f g"] := by decide +kernel
  have hsome : split "p\"q\" a\\\"b \"c d\"\\" ≠ [] := by
    rw [hsplit]
    exact List.cons_ne_nil _ _
  have hends : EndsOutside "p\"q\" a\\\"b \"c d\"\\" := by
    refine ⟨['p', '"', 'q', '"'], " a\\\"b \"c d\"\\".toList, by decide,
      isProgram_of_forall (by simp [isBlank]) ?_, by decide, by decide⟩
    exact .inr ⟨' ', by decide, by decide, by decide⟩
  have hblanks : ∀ c ∈ " \t".toList, isBlank c = true := by simp [isBlank]
  have hjoin : join ["", "x\\"] = .ok "\"\" x\\" := by rfl
  obtain ⟨hline, hjoined⟩ := split_append_blanks (by decide) hblanks "e \"f g"
  obtain ⟨hlonger, hsame⟩ := hline _ hsome hends
  have hwords := hjoined _ _ (by decide) hjoin
  rw [hmore] at hlonger hwords
  rw [hsplit] at hlonger hsame
  exact ⟨by decide, hblanks, hsome, hends, hlonger, hsame, hjoin, hwords⟩

end Launcher.CommandLine
