import Mathlib.Data.UInt

/-!
# Cutting the stream on the companion

`FrameExtractor` of `transport/__init__.py`. `push` is a generator; the caller takes what it yields to the
end.
-/

namespace HexapodVerified.Companion

structure FrameExtractor where
  buf : List UInt8 := []
  max_frame : Nat := 4096
  discarding : Bool := false
  deriving DecidableEq, Repr

namespace FrameExtractor

/-- The body of the loop of `push`: the state behind it, and what it yields. -/
def pushByte (e : FrameExtractor) (b : UInt8) : FrameExtractor × List (List UInt8) :=
  if b = 0x00 then
    if e.discarding then ({ e with discarding := false, buf := [] }, [])
    else if e.buf ≠ [] then ({ e with buf := [] }, [[0x00] ++ e.buf ++ [0x00]])
    else (e, [])
  else if e.discarding then (e, [])
  else
    let e := { e with buf := e.buf ++ [b] }
    if e.buf.length > e.max_frame then ({ e with buf := [], discarding := true }, []) else (e, [])

def push (e : FrameExtractor) : List UInt8 → FrameExtractor × List (List UInt8)
  | [] => (e, [])
  | b :: data =>
    let (next, frame) := e.pushByte b
    let (last, frames) := push next data
    (last, frame ++ frames)

/-- One call of `push` after the other. -/
def pushAll (e : FrameExtractor) : List (List UInt8) → FrameExtractor × List (List UInt8)
  | [] => (e, [])
  | data :: later =>
    let (next, frames) := e.push data
    let (last, others) := pushAll next later
    (last, frames ++ others)

end FrameExtractor

end HexapodVerified.Companion
