import Mathlib.Data.List.Basic
import Chip8.Proofs.CommandLine.Outcome
import Chip8.Proofs.Number.Numeral

/-!
# The order of options

`Spells` lists the command lines on which options are written out in full around one path, in any
order and any number of times, with values apart or attached. Such a command line is understood
(`understood_of_spells`), and each option is settled by the last wish for it (`Settings.granting`).
So neither order nor repetition matters but for that: `option_order_irrelevant`.
-/

namespace Chip8.CommandLine

/-- What one option asks for. -/
inductive Wish where
  | number (f : Flag) (n : Nat)
  | shiftFlag (mode : ShiftFlag)
  | switch (f : Flag)
deriving DecidableEq, Repr

/-- How a wish is put: the option, and the text of its value if it needs one. -/
inductive Wish.Written : Wish → Flag → Option String → Prop where
  | number {f n text} :
    f ∈ [Flag.scale, .cpuHz, .timerHz] →
    Numeral.readPositive text = .ok n →
    Written (.number f n) f (some text)
  | shiftFlag {mode} :
    Written (.shiftFlag mode) .shiftFlag (some mode.name)
  | switch {f} :
    f ∈ [Flag.strict, .log, .disasm] →
    Written (.switch f) f none

/-- A command line of options that are written out in full, with one path among them or none. -/
inductive Spells : List Wish → Option String → List String → Prop where
  | nil :
    Spells [] none []
  | path {wishes path texts} :
    path.toList.head? ≠ some '-' →
    Spells wishes none texts →
    Spells wishes (some path) (path :: texts)
  | apart {wishes path? texts wish f value} :
    wish.Written f (some value) →
    Spells wishes path? texts →
    Spells (wish :: wishes) path? (f.spelling :: value :: texts)
  | attached {wishes path? texts wish f value} :
    wish.Written f (some value) →
    Spells wishes path? texts →
    Spells (wish :: wishes) path? ((f.spelling ++ "=" ++ value) :: texts)
  | alone {wishes path? texts wish f} :
    wish.Written f none →
    Spells wishes path? texts →
    Spells (wish :: wishes) path? (f.spelling :: texts)

namespace Wish

/-- The number that a wish asks for, if it is one for an option. -/
def number? (g : Flag) : Wish → Option Nat
  | number f n => if f = g then some n else none
  | _ => none

/-- The shift flag that a wish asks for. -/
def mode? : Wish → Option ShiftFlag
  | shiftFlag mode => some mode
  | _ => none

end Wish

/-- The number that is asked for last for an option. -/
def lastNumber? (f : Flag) (wishes : List Wish) : Option Nat :=
  (wishes.filterMap (Wish.number? f)).getLast?

/-- The shift flag that is asked for last. -/
def lastMode? (wishes : List Wish) : Option ShiftFlag := (wishes.filterMap Wish.mode?).getLast?

/-- The settings with the last wish for each option granted. -/
def Settings.granting (s : Settings) (wishes : List Wish) : Settings :=
  { s with
    scale := ((lastNumber? .scale wishes).map .value).getD s.scale
    cpuHz := ((lastNumber? .cpuHz wishes).map .value).getD s.cpuHz
    timerHz := ((lastNumber? .timerHz wishes).map .value).or s.timerHz
    shiftFlag := ((lastMode? wishes).map .value).getD s.shiftFlag
    strict := s.strict || decide (.switch .strict ∈ wishes)
    log := s.log || decide (.switch .log ∈ wishes)
    disasm := s.disasm || decide (.switch .disasm ∈ wishes) }

variable {wish : Wish} {wishes : List Wish} {path : String} {f : Flag} {text value : String}
  {s : Settings}

/-! ## Single arguments -/

/-- A text that does not begin with a dash is not the separator. -/
lemma ne_of_plain (plain : text.toList.head? ≠ some '-') : text ≠ "--" := by
  rintro rfl
  exact plain rfl

/-- A text that does not begin with a dash is a plain value. -/
lemma ofText_of_plain (plain : text.toList.head? ≠ some '-') :
    Argument.ofText text = .ok (.value text) := by
  rw [Argument.ofText]
  split
  case h_6 => rfl
  all_goals
    next dashed => exact absurd (congrArg List.head? dashed) plain

/-- A text that begins with two dashes is read as an option. -/
lemma ofText_of_dashes {name : List Char} (dashed : text.toList = '-' :: '-' :: name) :
    Argument.ofText text = Argument.ofDashed text ('-' :: '-' :: name) := by
  rw [Argument.ofText, dashed]
  rfl

/-- A text is cut at its first equals sign. -/
lemma splitEquals_append {name : List Char} (none : '=' ∉ name) (value : List Char) :
    Argument.splitEquals (name ++ '=' :: value) = (name, some (String.ofList value)) := by
  have before : ∀ c ∈ name, (c != '=') = true := by
    intro c member
    rw [bne_iff_ne]
    rintro rfl
    exact none member
  rw [Argument.splitEquals, List.dropWhile_append_of_pos before,
    List.takeWhile_append_of_pos before]
  show (name ++ [], _) = _
  rw [List.append_nil]

/-- The spelling of an option begins with two dashes and has no equals sign. -/
lemma exists_toList_spelling (f : Flag) :
    ∃ name, f.spelling.toList = '-' :: '-' :: name ∧ '=' ∉ f.spelling.toList := by
  cases f with
  | _ => exact ⟨_, rfl, by decide⟩

/-- An option is found by its spelling. -/
lemma ofSpelling?_spelling (f : Flag) : Flag.ofSpelling? f.spelling = some f := by
  cases f with
  | _ => rfl

/-- The full spelling of an option is understood as this option. -/
lemma ofText_spelling (f : Flag) : Argument.ofText f.spelling = .ok (.flag f none) := by
  cases f with
  | _ => rfl

/-- A value behind an equals sign is attached to the option. -/
lemma ofText_attached (f : Flag) (value : String) :
    Argument.ofText (f.spelling ++ "=" ++ value) = .ok (.flag f (some value)) := by
  obtain ⟨name, dashed, plain⟩ := exists_toList_spelling f
  have whole : (f.spelling ++ "=" ++ value).toList = f.spelling.toList ++ '=' :: value.toList := by
    rw [String.toList_append, String.toList_append, List.append_assoc]
    rfl
  have again : '-' :: '-' :: (name ++ '=' :: value.toList) = f.spelling.toList ++
      '=' :: value.toList := by
    rw [dashed]
    rfl
  rw [ofText_of_dashes (whole.trans again.symm), Argument.ofDashed, again, splitEquals_append plain]
  dsimp only
  rw [String.ofList_toList, String.ofList_toList, ofSpelling?_spelling]

/-! ## Taking arguments -/

/-- An option that needs no value leaves the next argument alone. -/
lemma addAll_switch {rest : List Argument} (single : f.takesValue = false) :
    s.addAll (.flag f none :: rest) = (do
      let s ← s.setFlag f
      s.addAll rest) := by
  cases rest with
  | nil => rfl
  | cons argument rest =>
    cases argument with
    | value text => simp only [Settings.addAll, single, Bool.false_eq_true, if_false]
    | _ => rfl

/-- Without separators, a plain value is the path or has no place. -/
lemma addAll_value {rest : List Argument} (none : .separator ∉ rest) :
    s.addAll (.value text :: rest) = (s.addValue text).addAll rest := by
  cases rest with
  | nil => rfl
  | cons argument rest =>
    cases argument with
    | separator => exact absurd (.head _) none
    | _ => rfl

/-- The last of some items is that of the items behind the first one, unless there is none. -/
lemma getLast?_filterMap_cons {α β : Type} (g : α → Option β) (a : α) (l : List α) :
    ((a :: l).filterMap g).getLast? = (l.filterMap g).getLast?.or (g a) := by
  rw [List.filterMap_cons]
  split
  · next none => rw [none, Option.or_none]
  · next some =>
    rw [some, List.getLast?_cons]
    cases (l.filterMap g).getLast? with
    | none => rfl
    | some b => rfl

/-- The last wish for a number is among the later wishes, or it is the first one. -/
@[simp] lemma lastNumber?_cons (f : Flag) (wish : Wish) (wishes : List Wish) :
    lastNumber? f (wish :: wishes) = (lastNumber? f wishes).or (wish.number? f) :=
      getLast?_filterMap_cons _ _ _

/-- The last wish for a shift flag is among the later wishes, or it is the first one. -/
@[simp] lemma lastMode?_cons (wish : Wish) (wishes : List Wish) :
    lastMode? (wish :: wishes) = (lastMode? wishes).or wish.mode? := getLast?_filterMap_cons _ _ _

/-- Without wishes no number is wished for. -/
@[simp] lemma lastNumber?_nil (f : Flag) : lastNumber? f [] = none := rfl

/-- Without wishes no shift flag is wished for. -/
@[simp] lemma lastMode?_nil : lastMode? [] = none := rfl

/-- Without wishes nothing is granted. -/
lemma granting_nil (s : Settings) : s.granting [] = s := by
  simp [Settings.granting]

/-- Wishes may be granted one after the other, or all at once. -/
lemma granting_cons (s : Settings) (wish : Wish) (wishes : List Wish) :
    (s.granting [wish]).granting wishes = s.granting (wish :: wishes) := by
  simp only [Settings.granting, lastNumber?_cons, lastMode?_cons, lastNumber?_nil, lastMode?_nil,
    Option.none_or, Option.map_or, Option.getD_or, Option.or_assoc, List.mem_cons, List.not_mem_nil,
    or_false, Bool.decide_or, Bool.or_assoc]

/-- A path may come before the wishes that are granted or behind them. -/
lemma granting_addValue (s : Settings) (path : String) (wishes : List Wish) :
    (s.addValue path).granting wishes = (s.granting wishes).addValue path := by
  rw [Settings.addValue, Settings.addValue]
  show _ = if s.path.isNone then _ else _
  split
  · rfl
  · rfl

/-- A value that does not begin with a dash is read, and not taken for a blank. -/
lemma ofText_of_ne {α : Type} {read : String → Except Stop α} {a : α}
    (plain : text.toList.head? ≠ some '-') (done : read text = .ok a) :
    OptionValue.ofText read text = .ok (.value a) := by
  rw [OptionValue.ofText, if_neg (ne_of_plain plain), done]
  rfl

/-- A value of a wish that is written out does not begin with a dash. -/
lemma head?_ne_of_written (written : wish.Written f (some value)) :
    value.toList.head? ≠ some '-' := by
  cases written with
  | number _ read => exact Numeral.head?_ne_of_readPositive read
  | @shiftFlag mode =>
    cases mode with
    | _ => decide

/-- A value that is written for a wish grants it. -/
lemma setValue_of_written (written : wish.Written f (some value)) :
    f.takesValue = true ∧ s.setValue f value = .ok (s.granting [wish]) := by
  have plain := head?_ne_of_written written
  cases written with
  | @number f n text listed read =>
    have done (g : Flag) : OptionValue.ofText (Settings.number g) value = .ok (.value n) := by
      apply ofText_of_ne plain
      rw [Settings.number, read]
    simp only [List.mem_cons, List.not_mem_nil, or_false] at listed
    rcases listed with rfl | rfl | rfl
    all_goals
      refine ⟨rfl, ?_⟩
      rw [Settings.setValue, done]
      simp [Settings.granting, Wish.number?, Wish.mode?]
  | @shiftFlag mode =>
    have done : OptionValue.ofText Settings.choice mode.name = .ok (.value mode) := by
      apply ofText_of_ne plain
      cases mode with
      | _ => rfl
    refine ⟨rfl, ?_⟩
    rw [Settings.setValue, done]
    simp [Settings.granting, Wish.number?, Wish.mode?]

/-- A wish that needs no value is granted where its option stands alone. -/
lemma setFlag_of_written (written : wish.Written f none) :
    f.takesValue = false ∧ s.setFlag f = .ok (s.granting [wish]) := by
  cases written with
  | switch listed =>
    simp only [List.mem_cons, List.not_mem_nil, or_false] at listed
    rcases listed with rfl | rfl | rfl
    all_goals
      refine ⟨rfl, ?_⟩
      rw [Settings.setFlag]
      simp [Settings.granting, Wish.number?, Wish.mode?]

/-! ## Whole command lines -/

/-- Arguments are understood one by one, up to a separator. -/
lemma ofTexts_cons {argument : Argument} {arguments : List Argument} {texts : List String}
    (other : text ≠ "--") (first : Argument.ofText text = .ok argument)
    (rest : Argument.ofTexts texts = .ok arguments) :
    Argument.ofTexts (text :: texts) = .ok (argument :: arguments) := by
  rw [Argument.ofTexts, if_neg other, first, rest]
  rfl

/-- An option is not the separator. -/
lemma ne_of_ofText_flag {attached : Option String}
    (option : Argument.ofText text = .ok (.flag f attached)) :
    text ≠ "--" := by
  rintro rfl
  cases option

/-- A command line that is written out in full is understood: all its wishes are granted, and its
path is the path. -/
lemma understood_of_spells {path? : Option String} {texts : List String}
    (spelled : Spells wishes path? texts) :
    ∃ arguments, Argument.ofTexts texts = .ok arguments ∧ .separator ∉ arguments ∧
      ∀ s : Settings, s.addAll arguments =
        .ok (path?.elim (s.granting wishes) (s.granting wishes).addValue) := by
  induction spelled with
  | nil =>
    refine ⟨[], rfl, List.not_mem_nil, ?_⟩
    intro s
    rw [granting_nil]
    rfl
  | @path wishes path texts plain _ ih =>
    obtain ⟨arguments, read, none, adds⟩ := ih
    refine ⟨.value path :: arguments, ofTexts_cons (ne_of_plain plain) (ofText_of_plain plain) read,
      ?_, ?_⟩
    · simpa using none
    · intro s
      rw [addAll_value none, adds]
      exact congrArg Except.ok (granting_addValue s path wishes)
  | @apart wishes path? texts wish f value written _ ih =>
    obtain ⟨arguments, read, none, adds⟩ := ih
    have plain := head?_ne_of_written written
    have option := ofText_spelling f
    refine ⟨.flag f .none :: .value value :: arguments,
      ofTexts_cons (ne_of_ofText_flag option) option
      (ofTexts_cons (ne_of_plain plain) (ofText_of_plain plain) read), ?_, ?_⟩
    · simpa using none
    · intro s
      obtain ⟨needed, done⟩ := setValue_of_written (s := s) written
      rw [Settings.addAll, if_pos needed, done]
      show (s.granting [wish]).addAll arguments = _
      rw [adds, granting_cons]
  | @attached wishes path? texts wish f value written _ ih =>
    obtain ⟨arguments, read, none, adds⟩ := ih
    have option := ofText_attached f value
    refine ⟨.flag f (some value) :: arguments, ofTexts_cons (ne_of_ofText_flag option) option read,
      ?_, ?_⟩
    · simpa using none
    · intro s
      obtain ⟨_, done⟩ := setValue_of_written (s := s) written
      rw [Settings.addAll, done]
      show (s.granting [wish]).addAll arguments = _
      rw [adds, granting_cons]
  | @alone wishes path? texts wish f written _ ih =>
    obtain ⟨arguments, read, none, adds⟩ := ih
    have option := ofText_spelling f
    refine ⟨.flag f .none :: arguments, ofTexts_cons (ne_of_ofText_flag option) option read, ?_, ?_⟩
    · simpa using none
    · intro s
      obtain ⟨single, done⟩ := setFlag_of_written (s := s) written
      rw [addAll_switch single, done]
      show (s.granting [wish]).addAll arguments = _
      rw [adds, granting_cons]

/-- A command line that spells wishes around a path asks for this path and has the wishes
granted. -/
lemma ofArguments_of_spells {texts : List String} (spelled : Spells wishes (some path) texts) :
    Settings.ofArguments texts =
      .ok (path, { ({} : Settings).granting wishes with path := some path }) := by
  obtain ⟨arguments, read, _, adds⟩ := understood_of_spells spelled
  have added : Settings.addAll {} arguments =
      .ok { ({} : Settings).granting wishes with path := some path } := adds {}
  rw [Settings.ofArguments, read]
  show (Settings.addAll {} arguments >>= _) = _
  rw [added]
  rfl

/-- Settings depend on the last wish for each option that has a value, and on which switches are
wished for. -/
lemma granting_congr {wishes' : List Wish}
    (numbers : ∀ f, lastNumber? f wishes' = lastNumber? f wishes)
    (mode : lastMode? wishes' = lastMode? wishes)
    (switches : ∀ f, .switch f ∈ wishes' ↔ .switch f ∈ wishes) :
    s.granting wishes' = s.granting wishes := by
  simp only [Settings.granting, numbers, mode, switches]

/-- Neither the order of options nor their repetition matters, beyond which wish for an option is
the last. A command line on which options are written out in full around one path is understood.
What it comes to is settled by the path, the last value for each option that has one, and the
switches that are there. So every other way to put the same is as good, and among them every
reordering that keeps the last value for each option. -/
theorem option_order_irrelevant {texts : List String} (spelled : Spells wishes (some path) texts)
    (directory : Directory) (random : Source Byte) :
    run directory random texts =
      conclude { ({} : Settings).granting wishes with path := some path } random
        (directory.read path) ∧
    ∀ wishes' texts', Spells wishes' (some path) texts' →
      (∀ f, lastNumber? f wishes' = lastNumber? f wishes) → lastMode? wishes' = lastMode? wishes →
      ((∀ f, .switch f ∈ wishes' ↔ .switch f ∈ wishes) →
        run directory random texts' = run directory random texts) ∧
      (wishes'.Perm wishes → run directory random texts' = run directory random texts) := by
  have outcome {wishes texts} (spelled : Spells wishes (some path) texts) :
      run directory random texts =
        conclude { ({} : Settings).granting wishes with path := some path } random
          (directory.read path) := by
    rw [run, ofArguments_of_spells spelled]
  refine ⟨outcome spelled, ?_⟩
  intro wishes' texts' spelled' numbers mode
  have same (switches : ∀ f, .switch f ∈ wishes' ↔ .switch f ∈ wishes) :
      run directory random texts' = run directory random texts := by
    rw [outcome spelled, outcome spelled', granting_congr numbers mode switches]
  exact ⟨same, fun perm => same fun f => perm.mem_iff⟩

/-- Options around a path and behind it, with a scale that is given twice, and the same in another
order, with a plus in front of the scale and a switch that is given twice. The window has the last
scale. -/
theorem last_scale_kept :
    run loopDirectory ⟨fun _ => 0, 0⟩ ["--strict", "--scale=+5", "--strict", "loop.ch8"] =
        run loopDirectory ⟨fun _ => 0, 0⟩ ["--scale", "3", "loop.ch8", "--strict", "--scale=5"] ∧
      (run loopDirectory ⟨fun _ => 0, 0⟩ ["--strict", "--scale=+5", "--strict",
        "loop.ch8"]).window?.map (·.2.scale) =
        some 5 := by
  have scale {n : Nat} {text : String} (read : Numeral.readPositive text = .ok n) :
      Wish.Written (.number .scale n) .scale (some text) := .number (by decide) read
  have strict : Wish.Written (.switch .strict) .strict none := .switch (by decide)
  have plain : "loop.ch8".toList.head? ≠ some '-' := by decide
  have three : Numeral.readPositive "3" = .ok 3 := by decide
  have five : Numeral.readPositive "5" = .ok 5 := by decide
  have plusFive : Numeral.readPositive "+5" = .ok 5 := by decide
  have first : Spells [.number .scale 3, .switch .strict, .number .scale 5] (some "loop.ch8")
      ["--scale", "3", "loop.ch8", "--strict", "--scale=5"] :=
    .apart (scale three) (.path plain (.alone strict (.attached (scale five) .nil)))
  have second : Spells [.switch .strict, .number .scale 5, .switch .strict] (some "loop.ch8")
      ["--strict", "--scale=+5", "--strict", "loop.ch8"] :=
    .alone strict (.attached (scale plusFive) (.alone strict (.path plain .nil)))
  obtain ⟨outcome, others⟩ := option_order_irrelevant first loopDirectory ⟨fun _ => 0, 0⟩
  have same : run loopDirectory ⟨fun _ => 0, 0⟩ ["--strict", "--scale=+5", "--strict", "loop.ch8"] =
      run loopDirectory ⟨fun _ => 0, 0⟩ ["--scale", "3", "loop.ch8", "--strict", "--scale=5"] := by
    refine (others _ _ second ?_ rfl).1 ?_
    · intro f
      cases f with
      | _ => rfl
    · intro f
      simp
  refine ⟨same, ?_⟩
  rw [same, outcome]
  rfl

end Chip8.CommandLine
