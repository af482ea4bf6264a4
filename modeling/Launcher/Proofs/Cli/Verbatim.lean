import Mathlib.Data.List.Perm.Basic
import Launcher.Cli.Options
/-!
# The words of a command are taken as they stand

The words of the command line are options, and behind them a command. A word of the command can look like
an option, like the two dashes that announce a command, or like nothing at all, and it is taken as it
stands nevertheless: once the command has begun, no word of it is looked at. What the options say does not
depend on the command, nor on their order.

An option can be spelled in several ways, and two can share a word. The value of an option with one letter
has to be a word of its own: put right behind the letter, it makes a word that is not known as an option,
and the command begins there.

## Main definitions

* `Launcher.Cli.Spelling`, `Launcher.Cli.Spells` — how options are spelled.
* `Launcher.Cli.Fits` — an option has a value that suits it.
* `Launcher.Cli.Options.saying` — what some options say.
* `Launcher.Cli.Reading.Knows` — the invariant: what has been read says the options read so far.

## Main results

* `Launcher.Cli.words_of_spelling` — a spelled option is read.
* `Launcher.Cli.words_of_spells` — so are any number of them.
* `Launcher.Cli.takes_command_verbatim` — the command behind some options, and what the options say.
* `Launcher.Cli.attached_value_is_command` — a value behind the letter of its option.
-/

namespace Launcher.Cli

/-! ## How options are spelled -/

/-- The word does not begin with a dash. -/
def Undashed (word : String) : Prop :=
  word.toList.head? ≠ some '-'

instance (word : String) : Decidable (Undashed word) :=
  inferInstanceAs (Decidable (_ ≠ _))

/-- **A spelled option**, or two that share a word, and the words for it. -/
inductive Spelling : List (Key × String) → List String → Prop
  /-- The long name, and the value as a word of its own. -/
  | long {key : Key} {value : String} (hkey : key.takesValue = true) (hvalue : Undashed value) :
    Spelling [(key, value)] ["--" ++ key.long, value]
  /-- The long name, and the value behind an equals sign. -/
  | joined {key : Key} (value : String) (hkey : key.takesValue = true) :
    Spelling [(key, value)] ["--" ++ key.long ++ "=" ++ value]
  /-- The long name of an option without a value. -/
  | flag {key : Key} (hkey : key.takesValue = false) : Spelling [(key, "")] ["--" ++ key.long]
  /-- A letter, and the value as a word of its own. -/
  | letter {letter : Char} {key : Key} {value : String}
      (hletter : Switch.ofLetter? letter = some (.option key)) (hkey : key.takesValue = true)
      (hvalue : Undashed value) :
    Spelling [(key, value)] [String.ofList ['-', letter], value]
  /-- The letter of an option without a value. -/
  | letterFlag {letter : Char} {key : Key} (hletter : Switch.ofLetter? letter = some (.option key))
      (hkey : key.takesValue = false) :
    Spelling [(key, "")] [String.ofList ['-', letter]]
  /-- Two letters in one word, of which the second has a value. -/
  | cluster {first second : Char} {flag key : Key} {value : String}
      (hfirst : Switch.ofLetter? first = some (.option flag)) (hflag : flag.takesValue = false)
      (hsecond : Switch.ofLetter? second = some (.option key)) (hkey : key.takesValue = true)
      (hvalue : Undashed value) :
    Spelling [(flag, ""), (key, value)] [String.ofList ['-', first, second], value]

/-- Some options, one behind the other, and the words for them. -/
inductive Spells : List (Key × String) → List String → Prop
  | nil : Spells [] []
  | cons {these given : List (Key × String)} {those words : List String} (h : Spelling these those)
      (hs : Spells given words) : Spells (these ++ given) (those ++ words)

/-- The value suits the option. -/
def Fits : Key × String → Prop
  | (.config, value) | (.directory, value) => value ≠ ""
  | (.mode, value) => (Mode.ofName? value).isSome
  | (.timeout, value) => (number? value).isSome
  | (.killOnClose, _) | (.elevated, _) | (.debug, _) => True

instance : DecidablePred Fits
  | (.config, _) | (.directory, _) => inferInstanceAs (Decidable (_ ≠ _))
  | (.mode, _) | (.timeout, _) => inferInstanceAs (Decidable (_ = true))
  | (.killOnClose, _) | (.elevated, _) | (.debug, _) => inferInstanceAs (Decidable True)

/-- **What some options say.** -/
def Options.saying (given : List (Key × String)) : Options where
  config := given.lookup .config
  mode := ((given.lookup .mode).bind Mode.ofName?).getD .wait
  directory := given.lookup .directory
  killOnClose := (given.lookup .killOnClose).isSome
  timeout := (given.lookup .timeout).bind number?
  elevated := (given.lookup .elevated).isSome
  debug := (given.lookup .debug).isSome

section

variable {given given' : List (Key × String)} {key : Key} {value : String}

/-- Keys that are given once are looked up in any order. -/
lemma lookup_eq_of_perm (h : given.Perm given') (honce : (given.map Prod.fst).Nodup) (key : Key) :
    given.lookup key = given'.lookup key := by
  induction h with
  | nil => rfl
  | cons x h ih =>
    rw [List.lookup_cons, List.lookup_cons, ih (List.nodup_cons.1 honce).2]
  | swap x y l =>
    obtain ⟨first, v⟩ := x
    obtain ⟨second, w⟩ := y
    have hne : second ≠ first := by
      rintro rfl
      simp at honce
    by_cases hfirst : key = first
    · have hsecond : (key == second) = false := beq_false_of_ne (hfirst ▸ hne.symm)
      simp [List.lookup_cons, hfirst ▸ hsecond, hfirst]
    · simp [List.lookup_cons, beq_false_of_ne hfirst]
  | trans h₁ h₂ ih₁ ih₂ => exact (ih₁ honce).trans (ih₂ ((h₁.map _).nodup_iff.1 honce))

/-- The order of the options does not matter, if each is given once. -/
lemma saying_eq_of_perm (h : given.Perm given') (honce : (given.map Prod.fst).Nodup) :
    Options.saying given = Options.saying given' := by
  simp only [Options.saying, lookup_eq_of_perm h honce]

end

/-! ## The shape of words -/

/-- A word without a dash is no option. -/
lemma ofWord_of_undashed {word : String} (h : Undashed word) : Shape.ofWord word = .plain := by
  unfold Undashed at h
  unfold Shape.ofWord
  split <;> simp_all

/-- The shape of a long option. -/
lemma ofWord_long (key : Key) : Shape.ofWord ("--" ++ key.long) = .long key.long none := by
  cases key <;> decide

/-- The shape of a long option that is joined with its value. -/
lemma ofWord_joined (key : Key) (value : String) :
    Shape.ofWord ("--" ++ key.long ++ "=" ++ value) = .long key.long (some value) := by
  have hword : ("--" ++ key.long ++ "=" ++ value).toList =
      '-' :: '-' :: (key.long.toList ++ '=' :: value.toList) := by simp
  have hname : ∀ c ∈ key.long.toList, (c != '=') = true :=
    List.all_eq_true.1 (by cases key <;> decide)
  have htake : (key.long.toList ++ '=' :: value.toList).takeWhile (· != '=') = key.long.toList := by
    rw [List.takeWhile_append_of_pos hname]
    simp
  have hne : key.long.toList ++ '=' :: value.toList ≠ [] := by simp
  obtain ⟨c, rest, hcons⟩ := List.exists_cons_of_ne_nil hne
  unfold Shape.ofWord
  rw [hword, hcons]
  simp only [← hcons, htake, List.drop_left, String.ofList_toList]

/-- A long option is found by its name. -/
lemma ofLong?_long (key : Key) : Switch.ofLong? key.long = some (.option key) := by
  cases key <;> decide

/-- The shape of a cluster that begins with a known letter. -/
lemma ofWord_letters {letter : Char} {rest : List Char} (h : (Switch.ofLetter? letter).isSome) :
    Shape.ofWord (String.ofList ('-' :: letter :: rest)) = .letters (letter :: rest) := by
  have hletter : letter ≠ '-' := by
    rintro rfl
    cases h
  unfold Shape.ofWord
  rw [String.toList_ofList]
  split <;> simp_all

/-! ## Reading options -/

namespace Reading

variable {given : List (Key × String)} {key : Key} {value : String} {r : Reading}

/-- What has been read when these options have been taken in, the last one first. -/
def knowing (given : List (Key × String)) : Reading where
  options := .saying given
  given := given.map Prod.fst

/-- **What has been read says these options**, the last one first. The value of the last option may not
have been looked at. -/
structure Knows (r : Reading) (given : List (Key × String)) : Prop where
  complete : r.awaitsValue = false
  settled : r.settle = .ok (knowing given)

/-- A reading made of what is known knows it. -/
lemma knows_knowing (given : List (Key × String)) : (knowing given).Knows given := ⟨rfl, rfl⟩

/-- A value that fits is kept. -/
lemma set_saying (h : Fits (key, value)) :
    (Options.saying given).set key value = .ok (.saying ((key, value) :: given)) := by
  cases key with
  | config => exact if_neg (by simpa using show value ≠ "" from h)
  | directory => exact if_neg (by simpa using show value ≠ "" from h)
  | mode =>
    obtain ⟨mode, hmode⟩ := Option.isSome_iff_exists.1 (show (Mode.ofName? value).isSome from h)
    have hsaying : Options.saying ((.mode, value) :: given) =
        { Options.saying given with mode := (Mode.ofName? value).getD .wait } := rfl
    rw [hsaying, Options.set, hmode]
    rfl
  | timeout =>
    obtain ⟨seconds, hseconds⟩ := Option.isSome_iff_exists.1 (show (number? value).isSome from h)
    have hsaying : Options.saying ((.timeout, value) :: given) =
        { Options.saying given with timeout := number? value } := rfl
    rw [hsaying, Options.set, hseconds]
  | killOnClose => rfl
  | elevated => rfl
  | debug => rfl

/-- Taking in an option that has not been given before. -/
lemma give_knowing (h : Fits (key, value)) (hnew : key ∉ given.map Prod.fst) :
    (knowing given).give key value = .ok (knowing ((key, value) :: given)) := by
  have hcontains : (knowing given).given.contains key = false := by simpa [knowing] using hnew
  rw [give, hcontains]
  show ((Options.saying given).set key value >>= _) = _
  rw [set_saying h]
  rfl

/-- What has been read when the value of an option is still to come. -/
def awaiting (given : List (Key × String)) (key : Key) : Reading :=
  { knowing given with pending := some (key, none) }

/-- The value has come, and has not been looked at. -/
lemma knows_takeValue (h : Fits (key, value)) (hnew : key ∉ given.map Prod.fst) :
    ((awaiting given key).takeValue value).Knows ((key, value) :: given) :=
  ⟨rfl, give_knowing h hnew⟩

/-! ## Reading words -/

section

variable {word : String} {rest : List String}

/-- Behind the separator every word belongs to the command. -/
lemma words_separator : words ("--" :: rest) r = r.finish rest := rfl

/-- A long option is read, and then the words behind it. -/
lemma words_long {name : String} {value : Option String} {s : Switch}
    (hshape : Shape.ofWord word = .long name value) (hs : Switch.ofLong? name = some s) :
    words (word :: rest) r = r.long s value >>= words rest := by
  rw [words, hshape]
  simp only [hs]

/-- A cluster of known letters is read, and then the words behind it. -/
lemma words_letters {cs : List Char} (hshape : Shape.ofWord word = .letters cs)
    (hcs : ∀ c ∈ cs, (Switch.ofLetter? c).isSome) :
    words (word :: rest) r = r.letters cs >>= words rest := by
  rw [words, hshape]
  exact if_pos (List.all_eq_true.2 hcs)

/-- A word that is no option is the value that is awaited. -/
lemma words_value (hword : Undashed word) :
    words (word :: rest) (awaiting given key) = words rest ((awaiting given key).takeValue word) := by
  rw [words, ofWord_of_undashed hword]
  rfl

/-- A word that is no option begins the command, unless a value is awaited. -/
lemma words_command (hword : Undashed word) (hr : r.awaitsValue = false) :
    words (word :: rest) r = r.finish (word :: rest) := by
  rw [words, ofWord_of_undashed hword]
  simp [hr]

end

/-! ## Reading spelled options -/

/-- The name of an option with a value. -/
lemma long_awaiting (hr : r.Knows given) (hkey : key.takesValue = true) :
    r.long (.option key) none = .ok (awaiting given key) := by
  show (r.settle >>= fun r => if key.takesValue then _ else _) = _
  rw [hr.settled]
  exact if_pos hkey

/-- The letter of an option with a value. -/
lemma letters_awaiting {letter : Char} (hr : r.Knows given)
    (hletter : Switch.ofLetter? letter = some (.option key)) (hkey : key.takesValue = true) :
    r.letters [letter] = .ok (awaiting given key) := by
  rw [letters, hletter]
  simp only [hr.settled, hkey]
  rfl

/-- The letter of an option without a value. -/
lemma letters_flag {letter : Char} {rest : List Char} (hr : r.Knows given)
    (hletter : Switch.ofLetter? letter = some (.option key)) (hkey : key.takesValue = false)
    (hfits : Fits (key, "")) (hnew : key ∉ given.map Prod.fst) :
    r.letters (letter :: rest) = (knowing ((key, "") :: given)).letters rest := by
  rw [letters, hletter]
  simp only [hr.settled, hkey]
  show ((knowing given).give key "" >>= fun r => r.letters rest) = _
  rw [give_knowing hfits hnew]
  rfl

/-- **A spelled option is read.** What comes behind it is read when it has been taken in.

**Proof sketch.** A name or a letter with a value leaves the reading waiting for it, and the next word is
the value. An option without one, or with one behind an equals sign, is taken in at once. -/
theorem words_of_spelling {these : List (Key × String)} {those : List String}
    (h : Spelling these those) (hr : r.Knows given) (hfits : ∀ x ∈ these, Fits x)
    (hnew : ∀ x ∈ these, x.1 ∉ given.map Prod.fst) (honce : (these.map Prod.fst).Nodup)
    (rest : List String) :
    ∃ r', words (those ++ rest) r = words rest r' ∧ r'.Knows (these.reverse ++ given) := by
  cases h with
  | @long key value hkey hvalue =>
    refine ⟨_, ?_, knows_takeValue (hfits _ (by simp)) (hnew (key, value) (by simp))⟩
    rw [List.cons_append, words_long (ofWord_long key) (ofLong?_long key), long_awaiting hr hkey]
    exact words_value hvalue
  | @joined key value hkey =>
    refine ⟨_, ?_, knows_knowing _⟩
    rw [List.cons_append, words_long (ofWord_joined key value) (ofLong?_long key)]
    show ((if key.takesValue then r.settle >>= fun r => r.give key value else _) >>= _) = _
    rw [if_pos hkey, hr.settled]
    show ((knowing given).give key value >>= _) = _
    rw [give_knowing (hfits _ (by simp)) (hnew (key, value) (by simp))]
    rfl
  | @flag key hkey =>
    refine ⟨_, ?_, knows_knowing _⟩
    rw [List.cons_append, words_long (ofWord_long key) (ofLong?_long key)]
    show ((r.settle >>= fun r => if key.takesValue then _ else r.give key "") >>= _) = _
    rw [hr.settled]
    show ((if key.takesValue then _ else (knowing given).give key "") >>= _) = _
    rw [hkey, give_knowing (hfits _ (by simp)) (hnew (key, "") (by simp))]
    rfl
  | @letter letter key value hletter hkey hvalue =>
    refine ⟨_, ?_, knows_takeValue (hfits _ (by simp)) (hnew (key, value) (by simp))⟩
    rw [List.cons_append, words_letters (ofWord_letters (by simp [hletter])) (by simp [hletter]),
      letters_awaiting hr hletter hkey]
    exact words_value hvalue
  | @letterFlag letter key hletter hkey =>
    refine ⟨_, ?_, knows_knowing _⟩
    rw [List.cons_append, words_letters (ofWord_letters (by simp [hletter])) (by simp [hletter]),
      letters_flag hr hletter hkey (hfits _ (by simp)) (hnew (key, "") (by simp))]
    rfl
  | @cluster first second flag key value hfirst hflag hsecond hkey hvalue =>
    have hother : key ∉ ((flag, "") :: given).map Prod.fst := by
      have hgiven := hnew (key, value) (by simp)
      have hne : key ≠ flag := by
        rintro rfl
        simp at honce
      simpa [hne] using hgiven
    refine ⟨_, ?_, knows_takeValue (hfits _ (by simp)) hother⟩
    rw [List.cons_append, words_letters (ofWord_letters (by simp [hfirst])) (by simp [hfirst, hsecond]),
      letters_flag hr hfirst hflag (hfits _ (by simp)) (hnew (flag, "") (by simp)),
      letters_awaiting (knows_knowing _) hsecond hkey]
    exact words_value hvalue

/-- **Spelled options are read**, one after the other. -/
theorem words_of_spells {these : List (Key × String)} {those : List String} (h : Spells these those)
    (hr : r.Knows given) (hfits : ∀ x ∈ these, Fits x)
    (honce : ((these ++ given).map Prod.fst).Nodup) (rest : List String) :
    ∃ r', words (those ++ rest) r = words rest r' ∧ r'.Knows (these.reverse ++ given) := by
  induction h generalizing r given with
  | nil => exact ⟨r, rfl, hr⟩
  | @cons these later those words h hs ih =>
    simp only [List.map_append, List.append_assoc] at honce
    obtain ⟨hfirst, hlater, hdisjoint⟩ := List.nodup_append.1 honce
    have hnew : ∀ x ∈ these, x.1 ∉ given.map Prod.fst := fun x hx hmem =>
      hdisjoint x.1 (List.mem_map_of_mem hx) x.1 (List.mem_append_right _ hmem) rfl
    obtain ⟨r₁, hwords, hr₁⟩ := words_of_spelling h hr
      (fun x hx => hfits x (List.mem_append_left _ hx)) hnew hfirst (words ++ rest)
    have honce₁ : ((later ++ (these.reverse ++ given)).map Prod.fst).Nodup := by
      simp only [List.map_append, List.map_reverse]
      have hreverse := (List.reverse_perm (these.map Prod.fst)).symm.append_right (given.map Prod.fst)
      exact ((List.perm_append_comm_assoc _ _ _).trans (hreverse.append_left _)).nodup honce
    obtain ⟨r₂, hrest, hr₂⟩ := ih hr₁ (fun x hx => hfits x (List.mem_append_right _ hx)) honce₁
    refine ⟨r₂, ?_, ?_⟩
    · rw [List.append_assoc, hwords, hrest]
    · rwa [List.reverse_append, List.append_assoc]

/-- The command is known, and nothing more is read. -/
lemma finish_of_knows (hr : r.Knows given) (command : List String) :
    r.finish command =
      if (given.lookup .config).isSome && !command.isEmpty then .error .conflict
      else .ok { Options.saying given with command } := by
  rw [finish, hr.settled]
  rfl

end Reading

/-! ## The command -/

section

variable {given : List (Key × String)} {words : List String}

/-- A launch spec is named, when the options name one. -/
lemma isSome_lookup_iff {key : Key} : (given.lookup key).isSome ↔ key ∈ given.map Prod.fst := by
  induction given with
  | nil => simp
  | cons x given ih =>
    obtain ⟨first, value⟩ := x
    by_cases hfirst : key = first
    · simp [hfirst]
    · simp [List.lookup_cons, beq_false_of_ne hfirst, ih, hfirst]

/-- What the options and a command come to. A launch spec and a command exclude each other. -/
def Options.closing (given : List (Key × String)) (command : List String) :
    Except UsageFault Options :=
  if .config ∈ given.map Prod.fst ∧ command ≠ [] then .error .conflict
  else .ok { Options.saying given with command }

/-- Behind spelled options the command is known at once. -/
lemma ofWords_of_spells (h : Spells given words) (hfits : ∀ x ∈ given, Fits x)
    (honce : (given.map Prod.fst).Nodup) (command : List String) :
    Options.ofWords (words ++ "--" :: command) = Options.closing given command ∧
    ∀ first rest, command = first :: rest → Undashed first →
      Options.ofWords (words ++ command) = Options.closing given command := by
  have honce' : ((given ++ []).map Prod.fst).Nodup := by simpa using honce
  have hread (rest : List String) := Reading.words_of_spells h (Reading.knows_knowing []) hfits honce' rest
  have hsaying : Options.saying (given.reverse ++ []) = .saying given := by
    rw [List.append_nil]
    exact (saying_eq_of_perm given.reverse_perm.symm honce).symm
  have hfinish {r : Reading} (hr : r.Knows (given.reverse ++ [])) :
      r.finish command = Options.closing given command := by
    have hconfig : ((given.reverse ++ []).lookup Key.config).isSome ↔ .config ∈ given.map Prod.fst := by
      rw [isSome_lookup_iff]
      simp
    rw [Reading.finish_of_knows hr, hsaying, Options.closing]
    refine if_congr ?_ rfl rfl
    rw [Bool.and_eq_true, hconfig]
    simp
  constructor
  · obtain ⟨r, hwords, hr⟩ := hread ("--" :: command)
    exact hwords.trans (Reading.words_separator.trans (hfinish hr))
  · rintro first rest rfl hfirst
    obtain ⟨r, hwords, hr⟩ := hread (first :: rest)
    exact hwords.trans ((Reading.words_command hfirst hr.complete).trans (hfinish hr))

/-- What options and a command come to does not depend on the order of the options. -/
lemma closing_eq_of_perm {given' : List (Key × String)} (h : given'.Perm given)
    (honce : (given.map Prod.fst).Nodup) (command : List String) :
    Options.closing given' command = Options.closing given command := by
  have hmem : Key.config ∈ given'.map Prod.fst ↔ .config ∈ given.map Prod.fst :=
    (h.map Prod.fst).mem_iff
  simp only [Options.closing, hmem, saying_eq_of_perm h.symm honce]

end

/-- **The words of a command are taken as they stand.** Options are spelled in any way and any order, each
at most once, and behind them there are two dashes and any words at all, or words of which only the first
must not begin with a dash. When the options name no launch spec, these words are the command, and the
rest is what the options say. When they name one, there must be no command. The same options in another
order, or spelled in another way, come to the same.

**Proof sketch.** The options are read one by one, and what has been read says them
(`Launcher.Cli.Reading.Knows`). The two dashes, or a word that is no option, end the reading, and no word
behind is looked at. -/
theorem takes_command_verbatim {given : List (Key × String)} {words : List String}
    (h : Spells given words) (hfits : ∀ x ∈ given, Fits x) (honce : (given.map Prod.fst).Nodup)
    (command : List String) :
    (.config ∉ given.map Prod.fst →
      Options.ofWords (words ++ "--" :: command) = .ok { Options.saying given with command } ∧
      ∀ first rest, command = first :: rest → Undashed first →
        Options.ofWords (words ++ command) = .ok { Options.saying given with command }) ∧
    (.config ∈ given.map Prod.fst →
      (Options.ofWords (words ++ "--" :: command) =
        if command ≠ [] then .error .conflict else .ok (.saying given)) ∧
      ∀ first rest, command = first :: rest → Undashed first →
        Options.ofWords (words ++ command) = .error .conflict) ∧
    ∀ given' words', Spells given' words' → given'.Perm given →
      Options.ofWords (words' ++ "--" :: command) = Options.ofWords (words ++ "--" :: command) ∧
      ∀ first rest, command = first :: rest → Undashed first →
        Options.ofWords (words' ++ command) = Options.ofWords (words ++ command) := by
  obtain ⟨hseparated, hdirect⟩ := ofWords_of_spells h hfits honce command
  refine ⟨fun hconfig => ?_, fun hconfig => ?_, fun given' words' h' hperm => ?_⟩
  · have hclosing : Options.closing given command = .ok { Options.saying given with command } :=
      if_neg fun hboth => hconfig hboth.1
    exact ⟨hseparated.trans hclosing, fun first rest hcommand hfirst =>
      (hdirect first rest hcommand hfirst).trans hclosing⟩
  · refine ⟨?_, ?_⟩
    · rw [hseparated, Options.closing]
      by_cases hcommand : command = []
      · simp [hcommand, Options.saying]
      · simp [hconfig, hcommand]
    · rintro first rest rfl hfirst
      rw [hdirect first rest rfl hfirst]
      exact if_pos ⟨hconfig, List.cons_ne_nil _ _⟩
  · obtain ⟨hseparated', hdirect'⟩ := ofWords_of_spells h' (fun x hx => hfits x (hperm.subset hx))
      ((hperm.map Prod.fst).nodup_iff.2 honce) command
    have hclosing := closing_eq_of_perm hperm honce command
    refine ⟨?_, fun first rest hcommand hfirst => ?_⟩
    · rw [hseparated', hseparated, hclosing]
    · rw [hdirect' first rest hcommand hfirst, hdirect first rest hcommand hfirst, hclosing]

/-- Options in four spellings, and a command whose words look like options. -/
theorem takes_command_verbatim_of_options :
    Spells [(.directory, "d"), (.debug, ""), (.mode, "job"), (.timeout, "+5"), (.killOnClose, "")]
      ["--cwd", "d", "-dm", "job", "--timeout=+5", "--kill-on-close"] ∧
    Options.ofWords ["--cwd", "d", "-dm", "job", "--timeout=+5", "--kill-on-close", "--", "--mode", "",
      "--", "-d"] =
      .ok { Options.saying [(.directory, "d"), (.debug, ""), (.mode, "job"), (.timeout, "+5"),
        (.killOnClose, "")] with command := ["--mode", "", "--", "-d"] } := by
  have hcwd : Spelling [(.directory, "d")] ["--cwd", "d"] := .long rfl (by decide)
  have hmode : Spelling [(.debug, ""), (.mode, "job")] ["-dm", "job"] :=
    .cluster rfl rfl rfl rfl (by decide)
  have htimeout : Spelling [(.timeout, "+5")] ["--timeout=+5"] := .joined "+5" rfl
  have hkill : Spelling [(.killOnClose, "")] ["--kill-on-close"] := .flag rfl
  have h := Spells.cons hcwd (.cons hmode (.cons htimeout (.cons hkill .nil)))
  exact ⟨h, ((takes_command_verbatim h (by decide) (by decide) _).1 (by decide)).1⟩

/-- **A value right behind the letter of its option** makes a word that is no option, so the command
begins with it, and the option is not given. -/
theorem attached_value_is_command :
    Options.ofWords ["-mjob", "--", "ls"] = .ok { command := ["-mjob", "--", "ls"] } ∧
    Options.ofWords ["-m", "job", "--", "ls"] = .ok { mode := .job, command := ["ls"] } :=
  ⟨rfl, rfl⟩

end Launcher.Cli
