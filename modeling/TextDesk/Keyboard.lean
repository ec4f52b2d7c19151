import TextDesk.Dialogue

/-! # Keys

What typed keys amount to as an event: Ctrl-C interrupts, Ctrl-D on an empty line ends the input and
does nothing on any other, Enter ends the line, and every other key adds its character.
-/

namespace TextDesk.Keyboard

/-- The event that keys amount to, `typed` being on the line already; without an Enter, the input
ends. -/
def eventFrom (typed : List Char) : List Char → Event
  | [] => .eof
  | key :: keys =>
    if key = '\x03' then .interrupt
    else if key = '\x04' then if typed.isEmpty then .eof else eventFrom typed keys
    else if key = '\r' then .line (String.ofList typed)
    else eventFrom (typed ++ [key]) keys

/-- The event that keys amount to on an empty line. -/
def event (keys : String) : Event := eventFrom [] keys.toList

end TextDesk.Keyboard
