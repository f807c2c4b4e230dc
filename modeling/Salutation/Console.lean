import Salutation.Log.Record
import Salutation.Stream.Fault

/-!
# Consoles

What a program that talks to its user needs: a stream of input that is taken by lines, two streams
of output, and a log. A program that is written for every console does on the streams of the
operating system what it does on scripted ones, about which theorems can be stated.
-/
namespace Salutation

open Log (Record)

/-- The streams of output. -/
inductive Channel where
  | out
  | err
  deriving DecidableEq, Repr

/-- The operations of a console. The first three may fail; the log never tells how it fared. -/
class Console (m : Type → Type) where
  /-- Writes a text and an end of line. -/
  writeLine : Channel → String → ExceptT Fault m Unit
  /-- Flushes a stream of output. -/
  flush : Channel → ExceptT Fault m Unit
  /-- Takes the bytes of the next line, with its ending. There are none if the input has ended. -/
  readLine : ExceptT Fault m (List UInt8)
  /-- Makes a record in the log. -/
  log : Record → m Unit

end Salutation
