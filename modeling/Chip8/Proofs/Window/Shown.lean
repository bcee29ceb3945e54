import Chip8.Proofs.Machine.Redraw
import Chip8.Proofs.Pacer.Tick
import Chip8.Proofs.Screen.Picture
import Chip8.Proofs.Window.Step

/-!
# What a window shows

The image of a window gets a new picture only when a tick finds a request for a redraw, so the
window is up to date because no step touches the screen without leaving such a request: steps that
leave none have left the screen alone (`screen_after_of_quiet`), and so has a tick without a picture
(`screen_of_tick`). `Shows` is the invariant of a window whose machine has not halted; every event
keeps it (`Shows.of_handlesTo`), whether the window is open or closed, and `shown_current` says it
of every sequence of events.
-/

namespace Chip8

/-! ## Steps without a request for a redraw -/

namespace Machine

variable {m : Machine}

/-- Steps in turn that leave no request for a redraw have left the screen alone. -/
lemma screen_after_of_quiet {count : Nat} (done : m.Completes count)
    (quiet : (m.after count).redraw = false) :
    m.redraw = false ∧ (m.after count).screen = m.screen := by
  induction count generalizing m with
  | zero => exact ⟨quiet, rfl⟩
  | succ count ih =>
    have first : m.step.2 = none := done 0 (Nat.succ_pos _)
    have others : m.step.1.Completes count := fun j before => done (j + 1) (Nat.succ_lt_succ before)
    obtain ⟨quiet', same⟩ := ih others quiet
    obtain ⟨noRequest, same'⟩ := screen_step_of_quiet first quiet'
    exact ⟨noRequest, same.trans same'⟩

end Machine

/-! ## Ticks -/

namespace Pacer

variable {p q : Pacer} {elapsed : Quantity}

/-- A tick that raises an error has done nothing, unless the screen cannot be shown at all. -/
lemma eq_of_tick_error {e : HostError} (visible : p.halted = false → 0 ≤ p.scale)
    (raised : p.tick elapsed = (q, .error e)) : q = p := by
  have rule := p.ticksTo_tick elapsed
  rw [raised] at rule
  generalize answer : (Except.error e : Except HostError Tick) = result at rule
  cases rule with
  | uncounted _ _ => rfl
  | shown running _ _ _ =>
    rw [Picture.render, if_neg (Int.not_lt.2 (visible running))] at answer
    cases answer
  | _ => cases answer

/-- A tick after which the machine goes on tells the picture of the screen, or has left the screen
alone. -/
lemma screen_of_tick {answer : Tick} (ticked : p.tick elapsed = (q, .ok answer))
    (running : q.halted = false) :
    p.halted = false ∧ q.scale = p.scale ∧
      (answer.picture? = none → q.machine.screen = p.machine.screen) ∧
      ∀ picture, answer.picture? = some picture → Picture.render q.machine.screen.grid q.scale =
        .ok picture := by
  have rule := p.ticksTo_tick elapsed
  rw [ticked] at rule
  generalize same : (Except.ok answer : Except HostError Tick) = result at rule
  cases rule with
  | halted stopped =>
    rw [running] at stopped
    cases stopped
  | uncounted _ _ => cases same
  -- A step has failed, so the machine has halted after all.
  | failed _ _ _ _ _ => cases running
  | unchanged before _ done quiet =>
    cases same
    exact ⟨before, rfl, fun _ => (Machine.screen_after_of_quiet done quiet).2, nofun⟩
  | @shown n before _ _ _ =>
    cases rendered : Picture.render (p.machine.after n.toNat).screen.grid p.scale with
    | error e =>
      rw [rendered] at same
      cases same
    | ok picture =>
      rw [rendered] at same
      cases same
      refine ⟨before, rfl, nofun, ?_⟩
      intro picture' told
      cases told
      exact rendered

end Pacer

/-! ## Pictures -/

/-- The picture that a request hands to the image, and the bytes that each of its rows takes. -/
def Call.handed? : Call → Option (Int × Picture)
  | createImage width _ picture => some (width * 4, picture)
  | setPicture pitch picture => some (pitch, picture)
  | _ => none

namespace Window

variable {w w' : Window} {scale : Int}

/-- The picture handed to the image last, and the bytes that each of its rows takes. -/
def shown? (w : Window) : Option (Int × Picture) := w.calls.findSome? Call.handed?

/-- Two windows have the same image and the same to be shown. -/
structure SameDisplay (w w' : Window) : Prop where
  zoom : w'.pacer.scale = w.pacer.scale
  width : w'.width = w.width
  height : w'.height = w.height
  screen : w'.machine.screen = w.machine.screen
  shown : w'.shown? = w.shown?

/-- A window is as large as its screen at the scale, and the image has the picture of the screen as
it is. -/
structure Shows (w : Window) (scale : Int) : Prop where
  zoom : w.pacer.scale = scale
  width : w.width = Layout.width * scale
  height : w.height = Layout.height * scale
  image : ∃ picture, w.shown? = some (w.width * 4, picture) ∧
    Picture.render w.machine.screen.grid scale = .ok picture

/-- A window that looks the same is up to date as well. -/
lemma Shows.of_sameDisplay (shows : w.Shows scale) (same : w.SameDisplay w') : w'.Shows scale := by
  obtain ⟨picture, shown, rendered⟩ := shows.image
  refine ⟨same.zoom.trans shows.zoom, same.width.trans shows.width, same.height.trans shows.height,
    picture, ?_, ?_⟩
  · rw [same.shown, same.width]
    exact shown
  · rw [same.screen]
    exact rendered

/-- A tone does not change what is shown. -/
lemma sameDisplay_updateSound (w : Window) : w.SameDisplay w.updateSound := by
  rw [updateSound]
  split
  · exact ⟨rfl, rfl, rfl, rfl, rfl⟩
  · exact ⟨rfl, rfl, rfl, rfl, rfl⟩

/-- A window with the picture of its screen handed to the image is up to date. -/
lemma Shows.setPicture {picture : Picture} (zoom : w.pacer.scale = scale)
    (width : w.width = Layout.width * scale) (height : w.height = Layout.height * scale)
    (rendered : Picture.render w.machine.screen.grid w.pacer.scale = .ok picture) :
    (w.ask [.setPicture (w.width * 4) picture]).Shows scale := by
  rw [zoom] at rendered
  exact ⟨zoom, width, height, picture, rfl, rendered⟩

/-- While the machine has not halted, an event keeps the window up to date. -/
lemma Shows.of_handlesTo {e : Event} {result : Window × Except HostError String}
    (visible : 0 ≤ scale) (shows : w.pacer.halted = false → w.Shows scale)
    (rule : w.HandlesTo e result) :
    result.1.pacer.halted = false → result.1.Shows scale := by
  intro running
  -- Only a tick of the steps touches the screen or the image; every other event leaves the display
  -- as it is.
  cases rule with
  | raised _ raised =>
    obtain rfl := Pacer.eq_of_tick_error (fun before => (shows before).zoom ▸ visible) raised
    exact shows running
  | stopped _ _ halted => cases halted.symm.trans running
  | @unchanged _ pacer _ _ ticked halted same =>
    obtain ⟨before, zoom, screen, _⟩ := Pacer.screen_of_tick ticked halted
    have ran : w.SameDisplay { w with pacer } := ⟨zoom, rfl, rfl, screen same, rfl⟩
    exact ((shows before).of_sameDisplay ran).of_sameDisplay (sameDisplay_updateSound _)
  | @shown _ pacer _ _ _ ticked halted told =>
    obtain ⟨before, zoom, _, picture⟩ := Pacer.screen_of_tick ticked halted
    have ran : Shows ({ w with pacer }.ask [.setPicture (w.width * 4) _]) scale :=
      .setPicture (zoom.trans (shows before).zoom) (shows before).width (shows before).height
        (picture _ told)
    exact ran.of_sameDisplay (sameDisplay_updateSound _)
  | _ => exact (shows running).of_sameDisplay ⟨rfl, rfl, rfl, rfl, rfl⟩

/-- A window is up to date when it opens, whatever the machine has done before. -/
lemma Shows.of_start {m : Machine} {settings : WindowSettings} {pitches : Source Int}
    (opened : start m settings pitches = .ok w) : w.Shows settings.scale := by
  have rule := startsTo_start m settings pitches
  rw [opened] at rule
  cases rule with
  | ownTimers _ rendered _ _ => exact ⟨rfl, rfl, rfl, _, rfl, rendered⟩
  | clockTimers _ rendered _ _ _ => exact ⟨rfl, rfl, rfl, _, rfl, rendered⟩

/-- A window is never behind its machine. At a scale of at least one and a positive rate, a window
opens unless one of the rates has no interval. From then on, whatever the events, as long as the
machine has not halted, the picture handed to the image last is that of the cells that are lit and
dark then, and its bytes fill the window. -/
theorem shown_current (m : Machine) (settings : WindowSettings) (visible : 1 ≤ settings.scale)
    (positive : settings.cpuHz.atMostZero = false) (pitches : Source Int) :
    (∀ failure, start m settings pitches = .error failure →
      ∃ e, failure.error = .arithmetic e ∧
        (interval settings.cpuHz = .error e ∨ interval settings.timerHz = .error e)) ∧
    ∀ w, start m settings pitches = .ok w → ∀ events,
      let w' := w.handleAll events
      w'.pacer.halted = false →
        ∃ pitch picture, w'.shown? = some (pitch, picture) ∧
          Picture.render ((List.range 32).map fun row => (List.range 64).map fun column =>
            if w'.machine.screen.isLit row column then 1 else 0) settings.scale = .ok picture ∧
          pitch = 4 * w'.width ∧ (picture.bytes.length : Int) = pitch * w'.height := by
  refine ⟨?_, ?_⟩
  · intro failure failed
    have rule := startsTo_start m settings pitches
    rw [failed] at rule
    cases rule with
    | rateNotPositive notPositive => cases positive.symm.trans notPositive
    | noPicture _ rendered =>
      rw [Picture.render, if_neg (by omega)] at rendered
      cases rendered
    | noInterval missing => exact ⟨_, rfl, missing⟩
  · intro w opened events w' running
    have shows : w'.pacer.halted = false → w'.Shows settings.scale :=
      handleAll_of_handlesTo (P := fun w => w.pacer.halted = false → w.Shows settings.scale)
        (fun _ => .of_start opened) (.of_handlesTo (by omega)) events
    obtain ⟨_, width, height, picture, shown, rendered⟩ := shows running
    refine ⟨_, picture, shown, Screen.grid_eq _ ▸ rendered, Int.mul_comm _ _, ?_⟩
    rw [width, height]
    exact Screen.length_bytes_render rendered

/-- A machine that draws the glyph of 0, in a window with cells of two by two pixels. After a tick
of one step and a request to close, the image has the picture of a screen whose upper left cell is
lit. -/
theorem glyph_shown :
    let m :=
      ((Machine.fresh ⟨.bit, false, false⟩ false (.cycle 0 [])).performAll
      [.load (.bytes [0xD0, 0x15])]).1
    let settings : WindowSettings := { scale := 2, cpuHz := .whole 10 }
    ∃ w, start m settings (.cycle 0 []) = .ok w ∧
      let w' := w.handleAll [.draw, .tick .cpuTick (.whole 1), .close]
      w'.exited = true ∧ w'.machine.screen.isLit 0 0 = true ∧
        ∃ picture, w'.shown? = some (512, picture) ∧
          Picture.render ((List.range 32).map fun row => (List.range 64).map fun column =>
            if w'.machine.screen.isLit row column then 1 else 0) 2 = .ok picture ∧
          (picture.bytes.length : Int) = 512 * 64 := by
  intro m settings
  obtain ⟨_, windows⟩ := shown_current m settings (by decide) (by decide) (.cycle 0 [])
  have run : (start m settings (.cycle 0 [])).toOption.any (fun w =>
      let w' := w.handleAll [.draw, .tick .cpuTick (.whole 1), .close]
      w'.exited && !w'.pacer.halted && w'.machine.screen.isLit 0 0 && w'.width == 128 &&
        w'.height == 64) = true := by
    decide +kernel
  generalize start m settings (.cycle 0 []) = result at windows run
  cases result with
  | error failure => cases run
  | ok w =>
    simp only [Except.toOption, Option.any_some, Bool.and_eq_true, Bool.not_eq_true',
      beq_iff_eq] at run
    obtain ⟨⟨⟨⟨exited, running⟩, lit⟩, width⟩, height⟩ := run
    obtain ⟨pitch, picture, shown, rendered, rows, bytes⟩ := windows w rfl _ running
    rw [width] at rows
    rw [height] at bytes
    obtain rfl : pitch = 512 := rows
    exact ⟨w, rfl, exited, lit, picture, shown, rendered, bytes⟩

end Window

end Chip8
