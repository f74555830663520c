import Literate.CommandLine.Arguments
import Mathlib.Data.List.Basic

/-! Arguments without a command. The search for the first plain argument knows less of the options
than the parser does. What the parser makes of each argument is written down as a list of items, and
the search is compared with it: it finds the input, unless the value of the last of several letters
in one argument comes first, or the input starts with a hyphen. -/

namespace Literate.CommandLine

/-- What arguments are after the command that generates documentation. -/
inductive Item where
  /-- An option that needs no further argument. -/
  | option (argument : Text)
  /-- An option with its value in the next argument. -/
  | valued (argument value : Text)
  /-- An argument that belongs to no option. -/
  | path (argument : Text)

/-- Letters of which the last takes a value and no other does. -/
def lettersAwait : Text → Bool
  | [] => false
  | letter :: rest => if (Switch.ofLetter? letter).any (·.takesValue) then rest.isEmpty else lettersAwait rest

/-- An option argument whose value is the next argument. -/
def awaitsValue : Text → Bool
  | '-' :: '-' :: word => (Switch.ofWord? word).any (·.takesValue)
  | '-' :: letter :: letters => lettersAwait (letter :: letters)
  | _ => false

def items : List Text → List Item
  | [] => []
  | argument :: rest =>
    if argument = ['-', '-'] then rest.map .path
    else if looksLikeOption argument then
      if awaitsValue argument then
        match rest with
        | [] => [.option argument]
        | value :: others => .valued argument value :: items others
      else .option argument :: items rest
    else .path argument :: items rest

section

variable {argument : Text} {rest : List Text}

@[simp] theorem items_divider (rest : List Text) : items (['-', '-'] :: rest) = rest.map .path := by
  rw [items.eq_def]
  rfl

theorem items_plain (plain : looksLikeOption argument = false) : items (argument :: rest) = .path argument :: items rest := by
  have inside : argument ≠ ['-', '-'] := by
    intro divider
    rw [divider] at plain
    cases plain
  rw [items.eq_def]
  simp [inside, plain]

theorem items_option (inside : argument ≠ ['-', '-']) (looks : looksLikeOption argument = true)
    (complete : awaitsValue argument = false) : items (argument :: rest) = .option argument :: items rest := by
  rw [items.eq_def]
  simp [inside, looks, complete]

theorem items_valued {value : Text} (inside : argument ≠ ['-', '-']) (looks : looksLikeOption argument = true)
    (awaits : awaitsValue argument = true) :
    items (argument :: value :: rest) = .valued argument value :: items rest := by
  rw [items.eq_def]
  simp [inside, looks, awaits]

end

def Item.path? : Item → Option Text
  | path argument => some argument
  | _ => none

/-- Several letters behind one hyphen. -/
def isGroup : Text → Bool
  | '-' :: letter :: _ :: _ => letter ≠ '-'
  | _ => false

/-- The arguments that the search does not know to be values. -/
def Item.exposed? : Item → Option Text
  | option _ => none
  | valued argument value => if isGroup argument then some value else none
  | path argument => some argument

/-- Of the input and the values behind groups of letters, the first without a hyphen in front is
no command. -/
def NamesNoCommand (arguments : List Text) : Prop :=
  ∃ word, ((items arguments).filterMap Item.exposed?).find? (·.head? ≠ some '-') = some word ∧ word ∉ commandNames

namespace Switch

/-- The word of an option. -/
def word : Switch → Text
  | noColor => "no-color".toList
  | verbose => "verbose".toList
  | help => "help".toList
  | version => "version".toList
  | trim => "trim".toList
  | recursive => "recursive".toList
  | output => "output".toList
  | format => "format".toList
  | filter => "filter".toList
  | language => "language".toList
  | sourceExtension => "source-ext".toList
  | markdownExtension => "markdown-ext".toList
  | config => "config".toList

theorem ofWord?_eq_some {text : Text} {option : Switch} : ofWord? text = some option ↔ text = option.word := by
  constructor
  · intro found
    have spelled : String.ofList text = String.ofList option.word := by
      unfold ofWord? at found
      split at found
      all_goals
        cases found
        try assumption
    exact String.ofList_injective spelled
  · intro spelled
    subst spelled
    cases option <;> rfl

theorem not_mem_word (option : Switch) : '=' ∉ option.word := by
  cases option <;> decide

end Switch

theorem letter_mem_valueOptions {letter : Char} {option : Switch} (found : Switch.ofLetter? letter = some option)
    (takes : option.takesValue = true) : ['-', letter] ∈ valueOptions := by
  unfold Switch.ofLetter? at found
  split at found
  all_goals
    cases found
    try cases takes
    try decide

theorem word_mem_valueOptions {option : Switch} (takes : option.takesValue = true) :
    '-' :: '-' :: option.word ∈ valueOptions := by
  cases option with
  | noColor | verbose | help | version | trim | recursive => cases takes
  | output | format | filter | language | sourceExtension | markdownExtension | config => decide

/-- The search knows of every option that can be followed by its value, but not of groups of letters. -/
theorem mem_valueOptions {argument : Text} :
    argument ∈ valueOptions ↔ awaitsValue argument = true ∧ isGroup argument = false := by
  constructor
  · intro listed
    revert argument
    decide
  · intro ⟨awaits, alone⟩
    unfold awaitsValue at awaits
    split at awaits
    next word =>
      obtain ⟨option, found, takes⟩ := (Option.any_eq_true _ _).mp awaits
      rw [Switch.ofWord?_eq_some.mp found]
      exact word_mem_valueOptions takes
    next letter letters single =>
      cases letters with
      | nil =>
        have takes : (Switch.ofLetter? letter).any (·.takesValue) = true := by simpa [lettersAwait] using awaits
        obtain ⟨option, found, takes⟩ := (Option.any_eq_true _ _).mp takes
        exact letter_mem_valueOptions found takes
      | cons next rest =>
        obtain rfl : letter = '-' := by simpa [isGroup] using alone
        exact (single rfl).elim
    next => cases awaits

theorem flag_path {given changed : Given} {option : Switch} (taken : given.flag option = .ok changed) :
    changed.path = given.path := by
  unfold Given.flag at taken
  split at taken
  all_goals try split at taken
  all_goals
    cases taken
    try rfl

theorem map_path {α : Type} {given changed : Given} {update : α → Given} {result : Except Usage α}
    (taken : result.map update = .ok changed) (kept : ∀ value, (update value).path = given.path) :
    changed.path = given.path := by
  cases result with
  | error => cases taken
  | ok value =>
    cases taken
    exact kept value

theorem value_path {given changed : Given} {option : Switch} {value : Text} (taken : given.value option value = .ok changed) :
    changed.path = given.path := by
  unfold Given.value at taken
  split at taken
  case h_6 =>
    cases taken
    rfl
  case h_7 =>
    split at taken
    · cases taken
      rfl
    · cases taken
  case h_8 => cases taken
  all_goals exact map_path taken fun _ => rfl

def Taken.given : Taken → Given
  | done given => given
  | wants _ given => given

def Taken.isWaiting : Taken → Bool
  | done _ => false
  | wants _ _ => true

theorem done_path {given : Given} {option : Switch} {value : Text} {taken : Taken}
    (found : (given.value option value).map Taken.done = .ok taken) :
    taken.isWaiting = false ∧ taken.given.path = given.path := by
  cases changed : given.value option value with
  | error usage =>
    rw [changed] at found
    cases found
  | ok result =>
    rw [changed] at found
    cases found
    exact ⟨rfl, value_path changed⟩

theorem takeLetters_ok {level : Level} {letters : Text} {given : Given} {taken : Taken}
    (found : takeLetters level letters given = .ok taken) :
    lettersAwait letters = taken.isWaiting ∧ taken.given.path = given.path := by
  fun_induction takeLetters level letters given with
  | case1 given =>
    cases found
    exact ⟨rfl, rfl⟩
  | case2 => cases found
  | case3 letter given option known takes =>
    cases found
    have spelled := (Option.filter_eq_some_iff.mp known).1
    simp [lettersAwait, spelled, takes, Taken.isWaiting, Taken.given]
  | case4 letter given option known takes value =>
    have spelled := (Option.filter_eq_some_iff.mp known).1
    obtain ⟨finished, path⟩ := done_path found
    exact ⟨by simp [lettersAwait, spelled, takes, finished], path⟩
  | case5 letter given option known takes value nonempty _ =>
    have spelled := (Option.filter_eq_some_iff.mp known).1
    obtain ⟨finished, path⟩ := done_path found
    have empty : value.isEmpty = false := by simpa using nonempty
    exact ⟨by simp [lettersAwait, spelled, takes, finished, empty], path⟩
  | case6 letter rest given option known flag changed flagged ih =>
    have spelled := (Option.filter_eq_some_iff.mp known).1
    obtain ⟨waiting, path⟩ := ih found
    rw [flag_path flagged] at path
    exact ⟨by simp [lettersAwait, spelled, flag, waiting], path⟩
  | case7 => cases found

theorem takeWord_ok {level : Level} {argument : Text} {given : Given} {taken : Taken}
    (found : takeWord level argument given = .ok taken) :
    (Switch.ofWord? argument).any (·.takesValue) = taken.isWaiting ∧ taken.given.path = given.path := by
  have whole := @List.takeWhile_append_dropWhile _ (· ≠ '=') argument
  have behind : argument.drop (argument.takeWhile (· ≠ '=')).length = argument.dropWhile (· ≠ '=') := by
    conv =>
      lhs
      arg 2
      rw [← whole]
    exact List.drop_left
  simp only [takeWord, behind] at found
  split at found
  next => cases found
  next option known nothing =>
    rw [nothing, List.append_nil] at whole
    have spelled := (Option.filter_eq_some_iff.mp known).1
    rw [whole] at spelled
    by_cases takes : option.takesValue = true
    · rw [if_pos takes] at found
      cases found
      exact ⟨by simp [spelled, takes, Taken.isWaiting], rfl⟩
    · rw [if_neg takes] at found
      cases changed : given.flag option with
      | error usage =>
        rw [changed] at found
        cases found
      | ok result =>
        rw [changed] at found
        cases found
        exact ⟨by simp [spelled, takes, Taken.isWaiting], flag_path changed⟩
  next option c value known equals =>
    -- No option has an equals sign in its word.
    have unknown : Switch.ofWord? argument = none := by
      by_contra known
      obtain ⟨other, known⟩ := Option.ne_none_iff_exists'.mp known
      have absent := other.not_mem_word
      rw [← Switch.ofWord?_eq_some.mp known, ← whole, equals] at absent
      have sign := List.head?_dropWhile_not (fun d : Char => decide (d ≠ '=')) argument
      rw [equals] at sign
      obtain rfl : c = '=' := by simpa using sign
      simp at absent
    by_cases takes : option.takesValue = true
    · rw [if_pos takes] at found
      obtain ⟨finished, path⟩ := done_path found
      exact ⟨by simp [unknown, finished], path⟩
    · rw [if_neg takes] at found
      cases found

theorem takeOption_ok {level : Level} {argument : Text} {given : Given} {taken : Taken}
    (found : takeOption level argument given = some (.ok taken)) :
    looksLikeOption argument = true ∧ awaitsValue argument = taken.isWaiting ∧ taken.given.path = given.path := by
  unfold takeOption at found
  split at found
  next word => exact ⟨rfl, takeWord_ok (Option.some.inj found)⟩
  next letter letters other =>
    rw [awaitsValue.eq_2 _ _ other]
    exact ⟨rfl, takeLetters_ok (Option.some.inj found)⟩
  next => cases found

theorem takeOption_none {level : Level} {argument : Text} {given : Given}
    (found : takeOption level argument given = none) : looksLikeOption argument = false := by
  unfold takeOption at found
  split at found
  next => cases found
  next => cases found
  next other last =>
    unfold looksLikeOption
    split
    next => exact (last _ _ rfl).elim
    next => rfl

theorem positional_path {given changed : Given} {argument : Text} (taken : given.positional argument = .ok changed) :
    given.path = none ∧ changed.path = some argument := by
  unfold Given.positional Given.path? at taken
  split at taken
  · cases taken
  next free =>
    cases taken
    simp only [Bool.or_eq_true, not_or, Option.not_isSome_iff_eq_none] at free
    exact ⟨free.1, rfl⟩

theorem foldlM_positional_path {given final : Given} {arguments : List Text}
    (taken : arguments.foldlM Given.positional given = .ok final) :
    final.path.toList = given.path.toList ++ arguments := by
  induction arguments generalizing given with
  | nil =>
    cases taken
    exact (List.append_nil _).symm
  | cons argument rest ih =>
    rw [List.foldlM_cons] at taken
    cases first : given.positional argument with
    | error usage =>
      rw [first] at taken
      cases taken
    | ok changed =>
      rw [first] at taken
      obtain ⟨free, path⟩ := positional_path first
      rw [ih taken, free, path]
      rfl

/-- The items say which argument the path is. -/
theorem takeAll_path {level : Level} {arguments : List Text} {given final : Given}
    (taken : takeAll level arguments given = .ok final) :
    final.path.toList = given.path.toList ++ (items arguments).filterMap Item.path? := by
  fun_induction takeAll level arguments given with
  | case1 =>
    cases taken
    simp [items]
  | case2 rest given =>
    rw [foldlM_positional_path taken, items_divider, List.filterMap_map]
    exact congrArg _ List.filterMap_some.symm
  | case3 argument rest given _ plain changed first ih =>
    obtain ⟨free, path⟩ := positional_path first
    rw [ih taken, free, path, items_plain (takeOption_none plain)]
    rfl
  | case6 argument rest given inside changed first ih =>
    obtain ⟨looks, complete, path⟩ := takeOption_ok first
    rw [ih taken, items_option inside looks complete, ← path]
    rfl
  | case9 argument given inside option current first value others _ changed second ih =>
    obtain ⟨looks, awaits, path⟩ := takeOption_ok first
    rw [ih taken, items_valued inside looks awaits, value_path second, ← path]
    rfl
  | case4 | case5 | case7 | case8 | case10 => cases taken

section

variable {argument : Text} {rest : List Text}

theorem head?_of_looksLikeOption (looks : looksLikeOption argument = true) : argument.head? = some '-' := by
  unfold looksLikeOption at looks
  split at looks
  · rfl
  · cases looks

theorem looksLikeOption_of_listed (listed : argument ∈ valueOptions) : looksLikeOption argument = true := by
  revert argument
  decide

theorem firstPlain?_listed {value : Text} (listed : argument ∈ valueOptions) :
    firstPlain? (argument :: value :: rest) = firstPlain? rest := by
  have hyphen := head?_of_looksLikeOption (looksLikeOption_of_listed listed)
  rw [firstPlain?.eq_def]
  simp [hyphen, listed]

theorem firstPlain?_unlisted (hyphen : argument.head? = some '-') (unlisted : argument ∉ valueOptions) :
    firstPlain? (argument :: rest) = firstPlain? rest := by
  rw [firstPlain?.eq_def]
  simp [hyphen, unlisted]

/-- A lone hyphen is passed over, though it is no option. -/
theorem firstPlain?_plain (plain : looksLikeOption argument = false) :
    firstPlain? (argument :: rest) = if argument.head? = some '-' then firstPlain? rest else some argument := by
  split
  next hyphen =>
    apply firstPlain?_unlisted hyphen
    intro listed
    cases plain.symm.trans (looksLikeOption_of_listed listed)
  next other =>
    rw [firstPlain?.eq_def]
    simp [other]

end

private theorem find?_plain (word : Text) (words : List Text) : (word :: words).find? (·.head? ≠ some '-') =
    if word.head? = some '-' then words.find? (·.head? ≠ some '-') else some word := by
  split <;> simp_all

/-- What the search finds in arguments that the parser takes. -/
theorem firstPlain?_eq {level : Level} {arguments : List Text} {given final : Given}
    (taken : takeAll level arguments given = .ok final) :
    firstPlain? arguments = ((items arguments).filterMap Item.exposed?).find? (·.head? ≠ some '-') := by
  fun_induction takeAll level arguments given with
  | case1 => rfl
  | case2 rest given =>
    -- There is room for one argument behind the divider.
    have short : rest.length ≤ 1 := by
      have path := congrArg List.length (foldlM_positional_path taken)
      rw [List.length_append] at path
      have single : final.path.toList.length ≤ 1 := by cases final.path <;> simp
      omega
    rw [firstPlain?_unlisted rfl (by decide), items_divider, List.filterMap_map,
      show Item.exposed? ∘ Item.path = some from rfl, List.filterMap_some]
    match rest with
    | [] => rfl
    | [argument] =>
      rw [find?_plain, firstPlain?.eq_def]
      simp only [List.find?_nil]
      split
      · split <;> rfl
      · rfl
  | case3 argument rest given _ plain changed first ih =>
    rw [firstPlain?_plain (takeOption_none plain), items_plain (takeOption_none plain), ih taken,
      List.filterMap_cons, Item.exposed?, find?_plain]
  | case6 argument rest given inside changed first ih =>
    obtain ⟨looks, complete, _⟩ := takeOption_ok first
    have unlisted : argument ∉ valueOptions := by
      intro listed
      cases complete.symm.trans (mem_valueOptions.mp listed).1
    rw [firstPlain?_unlisted (head?_of_looksLikeOption looks) unlisted, items_option inside looks complete, ih taken]
    rfl
  | case9 argument given inside option current first value others plain changed second ih =>
    obtain ⟨looks, awaits, path⟩ := takeOption_ok first
    rw [items_valued inside looks awaits]
    by_cases group : isGroup argument = true
    · have unlisted : argument ∉ valueOptions := by
        intro listed
        cases group.symm.trans (mem_valueOptions.mp listed).2
      rw [firstPlain?_unlisted (head?_of_looksLikeOption looks) unlisted, firstPlain?_plain (by simpa using plain), ih taken,
        List.filterMap_cons, Item.exposed?, if_pos group, find?_plain]
    · rw [firstPlain?_listed (mem_valueOptions.mpr ⟨awaits, by simpa using group⟩), ih taken]
      simp [Item.exposed?, group]
  | case4 | case5 | case7 | case8 | case10 => cases taken

theorem takeAll_complete {level : Level} {argument : Text} {rest : List Text} {given final : Given}
    (inside : argument ≠ ['-', '-']) (looks : looksLikeOption argument = true) (complete : awaitsValue argument = false)
    (taken : takeAll level (argument :: rest) given = .ok final) : ∃ changed, takeAll level rest changed = .ok final := by
  rw [takeAll.eq_def] at taken
  simp only [if_neg inside] at taken
  split at taken
  next plain => cases looks.symm.trans (takeOption_none plain)
  next => cases taken
  next changed _ => exact ⟨changed, taken⟩
  next first => cases complete.symm.trans (takeOption_ok first).2.1

/-- The path of arguments without a command stands in the place of the command. -/
theorem parseFrom_error {arguments : List Text} {top given final : Given} {path : Text}
    (taken : takeAll .build arguments given = .ok final) (found : final.path = some path) (other : path ∉ commandNames) :
    ∃ usage, parseFrom top arguments = .error usage := by
  induction arguments generalizing top given with
  | nil => exact ⟨.error, rfl⟩
  | cons argument rest ih =>
    rw [parseFrom]
    split
    next => exact ⟨.error, rfl⟩
    next inside =>
      split
      next changed first =>
        obtain ⟨looks, complete, _⟩ := takeOption_ok first
        obtain ⟨later, taken⟩ := takeAll_complete inside looks complete taken
        exact ih taken
      next => exact ⟨.error, rfl⟩
      next usage _ => exact ⟨usage, rfl⟩
      next plain =>
        have named : argument ∈ (some path).toList := by
          rw [← found, takeAll_path taken, items_plain (takeOption_none plain)]
          exact List.mem_append_right _ (List.mem_cons_self ..)
        obtain rfl : argument = path := by simpa using named
        simp only [commandNames, List.mem_cons, List.not_mem_nil, or_false, not_or] at other
        rw [if_neg other.1, if_neg other.2.1, if_neg other.2.2]
        exact ⟨.error, rfl⟩

theorem parse_build {arguments : List Text} : parse ("build".toList :: arguments) =
    (takeAll .build arguments {}).map fun given => .make {} given (.build (.ofGiven given)) := rfl

/-- Arguments that are taken after the command are taken without it in the same way, or not at all. -/
theorem parse_withDefaultCommand {arguments : List Text} {invocation : Invocation} {build : Build} {path : Text}
    (parsed : parse ("build".toList :: arguments) = .ok invocation) (command : invocation.command = .build build)
    (input : build.input = some path) (other : path ∉ commandNames) :
    (NamesNoCommand arguments → parse (withDefaultCommand arguments) = .ok invocation) ∧
    (¬ NamesNoCommand arguments → ∃ usage, parse (withDefaultCommand arguments) = .error usage) := by
  rw [parse_build] at parsed
  cases taken : takeAll .build arguments {} with
  | error usage =>
    rw [taken] at parsed
    cases parsed
  | ok given =>
    have found : given.path = some path := by
      rw [taken] at parsed
      cases parsed
      cases command
      exact input
    constructor
    · intro ⟨word, first, unnamed⟩
      rw [← firstPlain?_eq taken] at first
      have added : withDefaultCommand arguments = "build".toList :: arguments := by
        simp [withDefaultCommand, first, unnamed]
      rw [added, parse_build, parsed]
    · intro named
      have kept : withDefaultCommand arguments = arguments := by
        unfold withDefaultCommand
        split
        next word first =>
          apply if_pos
          rw [List.contains_iff_mem]
          by_contra unnamed
          rw [firstPlain?_eq taken] at first
          exact named ⟨word, first, unnamed⟩
        next => rfl
      rw [kept]
      exact parseFrom_error taken found other

/-- Values that look like commands, behind words, behind a letter and behind several letters. -/
theorem parse_withDefaultCommand_values :
    let arguments := ["-vo", "out", "--filter", "build", "-c", "help", "--trim", "src"].map String.toList
    NamesNoCommand arguments ∧ ∃ invocation, parse ("build".toList :: arguments) = .ok invocation ∧
      parse (withDefaultCommand arguments) = .ok invocation := by
  intro arguments
  have first : NamesNoCommand arguments := ⟨"out".toList, by decide +kernel, by decide +kernel⟩
  let build : Build := { input := some "src".toList, output := some "out".toList, filters := ["build".toList],
                         config := some "help".toList, trim := true }
  have parsed : parse ("build".toList :: arguments) = .ok ⟨false, 1, .build build⟩ := by decide +kernel
  exact ⟨first, _, parsed, (parse_withDefaultCommand parsed rfl rfl (by decide +kernel)).1 first⟩

/-- The value behind two letters is taken for a command. -/
theorem group_value_names_command :
    let arguments := ["-ro", "build", "src"].map String.toList
    parse ("build".toList :: arguments) = .ok ⟨false, 0, .build
      { input := some "src".toList, output := some "build".toList, recursive := true }⟩ ∧
      "src".toList ∉ commandNames ∧ parse (withDefaultCommand arguments) = .error .error := by
  decide +kernel

end Literate.CommandLine
