import Chip8.Machine.Operation
import Chip8.Proofs.Window.Step

/-!
# Tones

A window remembers of its players only whether one is playing. `SoundsTo` lists what an event does
to the players: one of them comes to its end, a tick starts a new one, or nothing happens. `Heard`
is the invariant that relates the memory of the window to the players made so far and to the
requests about each of them; it holds after every sequence of events in which each player comes to
its end once at most (`Heard.of_endsOnce`).
-/

namespace Chip8

/-- The player that a request is about. -/
def Call.player? : Call → Option Nat
  | queueTone player _ | play player | deletePlayer player => some player
  | _ => none

namespace Window

variable {w : Window} {events : List Event}

/-- The requests about a player, in order. -/
def callsTo (w : Window) (player : Nat) : List Call :=
  (w.calls.filter (·.player? == some player)).reverse

/-- The players that have been made and have not come to their end in the course of events. -/
def livePlayers (w : Window) (events : List Event) : List Nat :=
  (List.range w.players).filter fun player => .playerEnded player ∉ events

/-- Events in which a player comes to its end only if it has been made, and once at most. -/
inductive EndsOnce (w : Window) : List Event → Prop where
  | nil :
    w.EndsOnce []
  | other {events : List Event} {e : Event} :
    w.EndsOnce events →
    (∀ player, e ≠ .playerEnded player) →
    w.EndsOnce (events ++ [e])
  | ended {events : List Event} {player : Nat} :
    w.EndsOnce events →
    player < (w.handleAll events).players →
    .playerEnded player ∉ events →
    w.EndsOnce (events ++ [.playerEnded player])

/-! ## One event -/

/-- The window after a player has come to its end. -/
def endTone (w : Window) (player : Nat) : Window :=
  { w with soundPlaying := false }.ask [.deletePlayer player]

/-- Two windows have the same players and have asked the same of them. -/
structure SameSound (w w' : Window) : Prop where
  soundPlaying : w'.soundPlaying = w.soundPlaying
  players : w'.players = w.players
  calls : ∀ player, w'.callsTo player = w.callsTo player

/-- What an event does to the players. -/
inductive SoundsTo (w : Window) : Event → Window × Except HostError String → Prop where
  /-- A player has come to its end, and is deleted. -/
  | ended {player} :
    w.SoundsTo (.playerEnded player) (w.endTone player, .ok "")
  /-- After the steps of a tick the machine asks for a tone, and none is playing. -/
  | started {elapsed ran} :
    w.exited = false →
    ran.pacer.halted = false →
    w.SameSound ran →
    ran.machine.soundTimer ≠ 0 →
    w.soundPlaying = false →
    w.SoundsTo (.tick .cpuTick elapsed) (ran.playTone, .ok "")
  | silent {e : Event} {result} :
    (∀ player, e ≠ .playerEnded player) →
    w.SameSound result.1 →
    w.SoundsTo e result

/-- A tone is started if one is asked for and none is playing. -/
lemma soundsTo_updateSound {ran : Window} {elapsed : Quantity} (opened : w.exited = false)
    (running : ran.pacer.halted = false) (same : w.SameSound ran) :
    w.SoundsTo (.tick .cpuTick elapsed) (ran.updateSound, .ok "") := by
  rw [updateSound]
  split
  · next asks =>
    rw [Bool.and_eq_true, Bool.not_eq_true', same.soundPlaying, Machine.soundActive,
      bne_iff_ne] at asks
    exact .started opened running same asks.1 asks.2
  · exact .silent nofun same

/-- Every event makes a sound by the rules. -/
lemma soundsTo_of_handlesTo {e : Event} {result : Window × Except HostError String}
    (rule : w.HandlesTo e result) :
    w.SoundsTo e result := by
  cases rule with
  | ended => exact .ended
  | unchanged opened _ running _ =>
    exact soundsTo_updateSound opened running ⟨rfl, rfl, fun _ => rfl⟩
  | shown opened _ running _ => exact soundsTo_updateSound opened running ⟨rfl, rfl, fun _ => rfl⟩
  | _ => exact .silent nofun ⟨rfl, rfl, fun _ => rfl⟩

/-! ## Sequences of events -/

/-- What a window knows about its players after a sequence of events. -/
structure Heard (w : Window) (events : List Event) : Prop where
  live : (w.livePlayers events).length = w.soundPlaying.toNat
  made : ∀ player, .playerEnded player ∈ events → player < w.players
  /-- A player gets a tone, plays it, and is deleted if it has come to its end. -/
  played : ∀ player < w.players, ∃ tone, w.callsTo player =
    [.queueTone player tone, .play player] ++
      if .playerEnded player ∈ events then [.deletePlayer player] else []
  unmade : ∀ player, w.players ≤ player → w.callsTo player = []

/-- An event that neither makes nor ends a player leaves the live ones. -/
lemma livePlayers_concat_of_other {w' : Window} {e : Event}
    (other : ∀ player, e ≠ .playerEnded player) (players : w'.players = w.players) :
    w'.livePlayers (events ++ [e]) = w.livePlayers events := by
  rw [livePlayers, livePlayers, players]
  refine List.filter_congr ?_
  intro player _
  have absent : .playerEnded player ∉ [e] :=
    fun member => other player (List.mem_singleton.1 member).symm
  simp [absent]

/-- An event that does nothing to the sound is not heard. -/
lemma Heard.of_sameSound {w' : Window} {e : Event} (heard : w.Heard events)
    (other : ∀ player, e ≠ .playerEnded player) (same : w.SameSound w') :
    w'.Heard (events ++ [e]) := by
  obtain ⟨soundPlaying, players, calls⟩ := same
  have ended (player : Nat) : .playerEnded player ∈ events ++ [e] ↔
      .playerEnded player ∈ events := by
    rw [List.mem_append, List.mem_singleton]
    exact or_iff_left fun same => other player same.symm
  constructor
  case live => rw [livePlayers_concat_of_other other players, soundPlaying, heard.live]
  case made =>
    intro player member
    rw [players]
    exact heard.made player ((ended player).1 member)
  case played =>
    intro player inside
    rw [players] at inside
    simp only [calls, ended]
    exact heard.played player inside
  case unmade =>
    intro player outside
    rw [players] at outside
    rw [calls]
    exact heard.unmade player outside

/-- A tone asks its player for the tone and to play it, and no other player for anything. -/
lemma callsTo_playTone (w : Window) (player : Nat) :
    ∃ tone, w.playTone.callsTo player =
      w.callsTo player ++ if player = w.players then [.queueTone player tone, .play player]
        else [] := by
  refine ⟨tone (max (-pitchVariation) (min pitchVariation w.pitches.peek)), ?_⟩
  by_cases here : player = w.players
  · subst here
    simp [playTone, ask, callsTo, Call.player?]
  · simp [playTone, ask, callsTo, Call.player?, here, Ne.symm here]

/-- Where no player is live, a new one is the only one. -/
lemma Heard.playTone (heard : w.Heard events) (quiet : w.soundPlaying = false) :
    w.playTone.Heard events := by
  have new : .playerEnded w.players ∉ events := fun ended => Nat.lt_irrefl _ (heard.made _ ended)
  constructor
  case live =>
    have before := heard.live
    rw [quiet] at before
    show ((List.range (w.players + 1)).filter fun player => .playerEnded player ∉ events).length = 1
    rw [List.range_succ, List.filter_append, List.length_append]
    show (w.livePlayers events).length + _ = 1
    simp [before, new]
  case made =>
    intro player ended
    exact Nat.lt_succ_of_lt (heard.made player ended)
  case played =>
    intro player inside
    obtain ⟨tone, calls⟩ := w.callsTo_playTone player
    rw [calls]
    rcases Nat.lt_succ_iff_lt_or_eq.1 inside with before | rfl
    · obtain ⟨tone', played⟩ := heard.played player before
      rw [if_neg (Nat.ne_of_lt before), List.append_nil]
      exact ⟨tone', played⟩
    · rw [if_pos rfl, heard.unmade _ (Nat.le_refl _), if_neg new]
      exact ⟨tone, rfl⟩
  case unmade =>
    intro player outside
    obtain ⟨_, calls⟩ := w.callsTo_playTone player
    rw [calls, heard.unmade player (Nat.le_of_succ_le outside), if_neg (Nat.ne_of_gt outside)]
    rfl

/-- The end of a tone deletes its player, and asks no other for anything. -/
lemma callsTo_endTone (w : Window) (player other : Nat) :
    (w.endTone player).callsTo other = w.callsTo other ++
      if other = player then [.deletePlayer player] else [] := by
  by_cases same : other = player
  · simp [endTone, ask, callsTo, Call.player?, same]
  · simp [endTone, ask, callsTo, Call.player?, same, Ne.symm same]

/-- A player that comes to its end for the first time is the one that is live. -/
lemma Heard.endTone {player : Nat} (heard : w.Heard events) (made : player < w.players)
    (first : .playerEnded player ∉ events) :
    (w.endTone player).Heard (events ++ [.playerEnded player]) := by
  constructor
  case live =>
    have inside : player ∈ w.livePlayers events :=
      List.mem_filter.2 ⟨List.mem_range.2 made, decide_eq_true first⟩
    have atMostOne : (w.livePlayers events).length ≤ 1 := heard.live ▸ Bool.toNat_le _
    obtain ⟨only, alone⟩ :=
      List.length_eq_one_iff.1 (Nat.le_antisymm atMostOne (List.length_pos_of_mem inside))
    have others : (w.endTone player).livePlayers (events ++ [.playerEnded player]) =
        (w.livePlayers events).filter (· ≠ player) := by
      rw [livePlayers, livePlayers, List.filter_filter]
      refine List.filter_congr ?_
      intro other _
      simp [and_comm]
    rw [alone, List.mem_singleton] at inside
    rw [others, alone, inside]
    simp [Window.endTone, ask]
  case made =>
    intro other member
    rcases List.mem_append.1 member with before | now
    · exact heard.made other before
    · cases List.mem_singleton.1 now
      exact made
  case played =>
    intro other inside
    obtain ⟨tone, played⟩ := heard.played other inside
    refine ⟨tone, ?_⟩
    rw [callsTo_endTone, played]
    by_cases same : other = player
    · subst same
      simp [first]
    · simp [same]
  case unmade =>
    intro other outside
    have ne : other ≠ player := Nat.ne_of_gt (Nat.lt_of_lt_of_le made outside)
    rw [callsTo_endTone, heard.unmade other outside, if_neg ne]
    rfl

/-- One more event keeps what is known, if it is no end of a player or the first one of a player
that was made. -/
lemma Heard.handle (heard : w.Heard events) (e : Event)
    (ends : ∀ player, e = .playerEnded player → player < w.players ∧ e ∉ events) :
    (w.handle e).1.Heard (events ++ [e]) := by
  have rule := soundsTo_of_handlesTo (w.handlesTo_handle e)
  generalize w.handle e = result at rule
  cases rule with
  | ended =>
    obtain ⟨made, first⟩ := ends _ rfl
    exact heard.endTone made first
  | @started elapsed ran _ _ same _ quiet =>
    have before : ran.Heard (events ++ [.tick .cpuTick elapsed]) := heard.of_sameSound nofun same
    exact before.playTone (same.soundPlaying.trans quiet)
  | silent other same => exact heard.of_sameSound other same

/-- A window that opens has made no sound. -/
lemma Heard.of_start {m : Machine} {settings : WindowSettings} {pitches : Source Int}
    (opened : start m settings pitches = .ok w) : w.Heard [] := by
  have rule := startsTo_start m settings pitches
  rw [opened] at rule
  cases rule with
  | ownTimers => exact ⟨rfl, nofun, nofun, fun _ _ => rfl⟩
  | clockTimers => exact ⟨rfl, nofun, nofun, fun _ _ => rfl⟩

/-- A sequence of events in which each player ends once at most is heard. -/
lemma Heard.of_endsOnce (heard : w.Heard []) (once : w.EndsOnce events) :
    (w.handleAll events).Heard events := by
  induction once with
  | nil => exact heard
  | @other events e _ other ih =>
    rw [handleAll_concat]
    exact ih.handle e fun player same => absurd same (other player)
  | @ended events player _ made first ih =>
    rw [handleAll_concat]
    refine ih.handle _ ?_
    rintro _ ⟨⟩
    exact ⟨made, first⟩

/-! ## Tones and the timer -/

/-- A machine that asks for a tone is playing one after its sound was brought up to date. -/
lemma soundPlaying_updateSound (asks : w.updateSound.machine.soundTimer ≠ 0) :
    w.updateSound.soundPlaying = true := by
  rw [updateSound] at asks ⊢
  split
  · rfl
  · next quiet =>
    rw [if_neg quiet] at asks
    rw [Machine.soundActive, bne_iff_ne.2 asks, Bool.true_and, Bool.not_eq_true',
      Bool.not_eq_false] at quiet
    exact quiet

/-- After a tick in which all steps are done, a machine that asks for a tone is heard. -/
lemma soundPlaying_of_handlesTo {elapsed : Quantity} {w' : Window} {told : String}
    (rule : w.HandlesTo (.tick .cpuTick elapsed) (w', .ok told)) (opened : w.exited = false)
    (running : w'.pacer.halted = false) (asks : w'.machine.soundTimer ≠ 0) :
    w'.soundPlaying = true := by
  cases rule with
  | late exited => cases opened.symm.trans exited
  | stopped _ _ halted => cases running.symm.trans halted
  | unchanged => exact soundPlaying_updateSound asks
  | shown => exact soundPlaying_updateSound asks

/-- One tone at a time. In a window, after events in which each player that was made comes to its
end once at most, exactly one player is live if the window takes a tone to be playing, and none
otherwise. Each player has been given a tone and played it, in this order and once, and has been
deleted once if it has come to its end. Only a tick of the steps makes a player, in a window that is
open, if all steps are done, the machine asks for a tone and no player is live; and after such a
tick a machine that asks for a tone is heard. -/
theorem one_tone_at_a_time (m : Machine) (settings : WindowSettings) (pitches : Source Int)
    (w : Window) (opened : start m settings pitches = .ok w) (events : List Event)
    (once : w.EndsOnce events) :
    let w' := w.handleAll events
    (w'.livePlayers events).length = (if w'.soundPlaying then 1 else 0) ∧
    (∀ player, ∃ tone, w'.callsTo player =
      if player < w'.players then
        [.queueTone player tone, .play player] ++
          if .playerEnded player ∈ events then [.deletePlayer player] else []
      else []) ∧
    (∀ e, (w'.handle e).1.players ≠ w'.players →
      (w'.handle e).1.players = w'.players + 1 ∧ (∃ elapsed, e = .tick .cpuTick elapsed) ∧
      w'.exited = false ∧
        (w'.handle e).2 = .ok "" ∧ (w'.handle e).1.pacer.halted = false ∧
        (w'.handle e).1.machine.soundTimer ≠ 0 ∧ w'.livePlayers events = []) ∧
    ∀ elapsed, w'.exited = false →
      let (w'', answer) := w'.handle (.tick .cpuTick elapsed)
      (∃ told, answer = .ok told) → w''.pacer.halted = false → w''.machine.soundTimer ≠ 0 →
        w''.soundPlaying = true := by
  intro w'
  have heard : w'.Heard events := (Heard.of_start opened).of_endsOnce once
  refine ⟨?_, ?_, ?_, ?_⟩
  · rw [heard.live]
    cases w'.soundPlaying with
    | true => rfl
    | false => rfl
  · intro player
    by_cases made : player < w'.players
    · obtain ⟨tone, played⟩ := heard.played player made
      exact ⟨tone, by rw [played, if_pos made]⟩
    · refine ⟨tone 0, ?_⟩
      rw [heard.unmade player (Nat.le_of_not_lt made), if_neg made]
  · intro e more
    have rule := soundsTo_of_handlesTo (w'.handlesTo_handle e)
    generalize w'.handle e = result at rule more ⊢
    cases rule with
    | ended => exact absurd rfl more
    | silent _ same => exact absurd same.players more
    | @started elapsed ran opened running same asks quiet =>
      have none := heard.live
      rw [quiet] at none
      exact ⟨congrArg (· + 1) same.players, ⟨elapsed, rfl⟩, opened, rfl, running, asks,
        List.length_eq_zero_iff.1 none⟩
  · intro elapsed isOpen
    have rule := w'.handlesTo_handle (.tick .cpuTick elapsed)
    generalize w'.handle (.tick .cpuTick elapsed) = result at rule ⊢
    obtain ⟨w'', answer⟩ := result
    rintro ⟨told, rfl⟩ running asks
    exact soundPlaying_of_handlesTo rule isOpen running asks

/-- A machine that sets its sound timer and then idles, in a window whose clock does not tick the
timers. The first tone comes to its end while the timer still runs, so the next tick starts a second
one. -/
theorem second_tone_follows :
    let m := ((Machine.fresh ⟨.bit, false, false⟩ false (.cycle 0 [])).performAll
      [.load (.bytes [0x60, 0x05, 0xF0, 0x18, 0x12, 0x04])]).1
    let settings : WindowSettings := { cpuHz := .whole 10 }
    let tick : Event := .tick .cpuTick (.whole 1)
    let events : List Event := [tick, tick, tick, .playerEnded 0, tick]
    ∃ w, start m settings (.cycle 0 [3]) = .ok w ∧ w.EndsOnce events ∧
      let w' := w.handleAll events
      (w'.livePlayers events).length = 1 ∧
        (∃ tone, w'.callsTo 0 = [.queueTone 0 tone, .play 0, .deletePlayer 0]) ∧
        ∃ tone, w'.callsTo 1 = [.queueTone 1 tone, .play 1] := by
  intro m settings tick events
  have tones := one_tone_at_a_time m settings (.cycle 0 [3])
  have run : (start m settings (.cycle 0 [3])).toOption.any (fun w =>
      let w' := w.handleAll events
      (w.handleAll [tick, tick, tick]).players == 1 && w'.players == 2 &&
        w'.soundPlaying) = true := by
    decide +kernel
  generalize start m settings (.cycle 0 [3]) = result at tones run
  cases result with
  | error failure => cases run
  | ok w =>
    simp only [Except.toOption, Option.any_some, Bool.and_eq_true, beq_iff_eq] at run
    obtain ⟨⟨first, second⟩, playing⟩ := run
    have goesOn {events : List Event} (once : w.EndsOnce events) : w.EndsOnce (events ++ [tick]) :=
      once.other nofun
    have running : w.EndsOnce [tick, tick, tick] := goesOn (goesOn (goesOn .nil))
    have ended : w.EndsOnce [tick, tick, tick, .playerEnded 0] :=
      running.ended (by rw [first]; exact Nat.one_pos) (by decide)
    have once : w.EndsOnce events := goesOn ended
    obtain ⟨live, played, _⟩ := tones w rfl events once
    obtain ⟨tone, past⟩ := played 0
    obtain ⟨tone', still⟩ := played 1
    rw [second] at past still
    refine ⟨w, rfl, once, ?_, ⟨tone, past⟩, ⟨tone', still⟩⟩
    rw [live, playing]
    rfl

end Window

end Chip8
