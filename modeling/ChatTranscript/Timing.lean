import ChatTranscript.Console
import ChatTranscript.Text.LowerCase

/-!
# Timing of phases

How long a phase of a run took, and how long the run has taken so far.

## Main definitions

* `Clock`: the readings of a clock, in order.
* `Timing.report`: the line for a phase.
* `Timing.Log.phase`: the end of a phase, with a report on it.
-/

namespace ChatTranscript

/-- The next readings, and the reading after those. -/
structure Clock where
  times : List Binary64
  still : Binary64

def Clock.read (clock : Clock) : Binary64 × Clock :=
  match clock.times with
  | time :: times => (time, { clock with times })
  | [] => (clock.still, clock)

namespace Timing

/-- The settings that turn timing on. -/
def isEnabled (setting : Text) : Bool :=
  ["1".toList, "true".toList, "yes".toList].contains (Text.lower setting)

def seconds (x : Binary64) : Text := Text.padStart 8 (x.fixed 3) ++ "s".toList

/-- The phase began at `began` and the run, if known, at `start`. -/
def report (phase : Text) (began now : Binary64) (start : Option Binary64) : Text :=
  "[TIMING] ".toList ++ Text.padEnd 40 phase ++ " ".toList ++ seconds (now.sub began) ++
    (match start with
      | some start => " (total: ".toList ++ seconds (now.sub start) ++ ")".toList
      | none => []) ++
    "\n".toList

/-- The clock of a run and what it has printed. -/
structure Log where
  enabled : Bool
  clock : Clock
  lines : Text

def Log.now (log : Log) : Binary64 × Log :=
  let (time, clock) := log.clock.read
  (time, { log with clock })

def Log.print (console : Console) (text : Text) (log : Log) : Except Fault Unit × Log :=
  match console log.lines text with
  | .ok () => (.ok (), { log with lines := log.lines ++ text })
  | .error fault => (.error fault, log)

/-- Ends a phase with its outcome, after the two readings of the phase and the report on it. A
report that is refused takes the place of the outcome. -/
def Log.phase {α : Type} (console : Console) (name : Text) (start : Option Binary64)
    (outcome : Except Fault α) (log : Log) : Except Fault α × Log :=
  if log.enabled then
    let (began, log) := log.now
    let (now, log) := log.now
    let (printed, log) := log.print console (report name began now start)
    (printed.bind fun () => outcome, log)
  else (outcome, log)

end Timing

end ChatTranscript
