import Chip8.Number.Double
import Chip8.Picture

/-!
# Calls

What a window asks of the display, the clock and the sound player, in words of its own, so that
everything it asked for can be written down in order.
-/

namespace Chip8

/-- The things a window does at intervals. -/
inductive Task where
  /-- Run the steps of the elapsed time. -/
  | cpuTick
  /-- Tick the timers of a machine that does not tick them itself. -/
  | timerTick
  /-- Bring the labels up to date. -/
  | updateBench
deriving DecidableEq, Repr

/-- A line of text over the picture. -/
structure Label where
  text : String
  fontSize : Nat
  x : Nat
  y : Int
  color : Color
deriving DecidableEq, Repr

/-- A tone: its length in seconds, its pitch and its samples per second. -/
structure Tone where
  duration : Double
  frequency : Int
  sampleRate : Nat
deriving DecidableEq, Repr

/-- One request. -/
inductive Call where
  /-- Open a window, which cannot be resized and does not wait for the display. -/
  | openWindow (width height : Int) (caption : String)
  /-- Make the image that is shown. -/
  | createImage (width height : Int) (picture : Picture)
  /-- Make a label, anchored at its left and half its height. -/
  | createLabel (label : Label)
  | schedule (task : Task) (interval : Double)
  | unschedule (task : Task)
  /-- Replace the picture of the image, whose rows take so many bytes. -/
  | setPicture (pitch : Int) (picture : Picture)
  | clear
  | drawImage
  | drawLabel (text : String)
  /-- Ask the window itself to close. -/
  | requestClose
  | close
  /-- Ask for a random integer between two bounds. -/
  | randomPitch (low high : Int)
  | queueTone (player : Nat) (tone : Tone)
  | play (player : Nat)
  | deletePlayer (player : Nat)
deriving DecidableEq, Repr

end Chip8
