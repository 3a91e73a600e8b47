import CueWatch.Text.Digit
import CueWatch.Text.Quoted

/-!
Contract: bytes read as UTF-8.

Owns:
- `scan`, which reads the first scalar value of a byte list or says why there is none;
- `decode`, the strict reading, whose fault names the offending bytes;
- `decodeShowing`, the reading that shows each offending byte as an escape;
- the wording of a fault;
- `encode`, the bytes of a text, and `size`, their number.

Does not own: line ends and byte order marks, which are text like any other.
-/

namespace CueWatch.Text.Utf8

/-- Why bytes are no UTF-8. -/
inductive Reason where
  | invalidStart
  | invalidContinuation
  | unexpectedEnd
deriving DecidableEq, Repr

/-- What stands at the start of a byte list: nothing, a scalar value that takes `width` bytes, or
`width` bytes that start no scalar value. -/
inductive Scan where
  | done
  | scalar (c : Char) (width : Nat)
  | broken (width : Nat) (reason : Reason)
deriving DecidableEq, Repr

/-- Whether a byte continues a sequence. -/
def isContinuation (b : Nat) : Bool := 0x80 ≤ b && b < 0xC0

/-- Whether `second` may follow the lead byte `lead` of a sequence of three or four: overlong
forms, surrogates and numbers beyond the last scalar value are refused at the second byte. -/
def allowsSecond (lead second : Nat) : Bool :=
  isContinuation second &&
    (if lead = 0xE0 then 0xA0 ≤ second
     else if lead = 0xED then second < 0xA0
     else if lead = 0xF0 then 0x90 ≤ second
     else if lead = 0xF4 then second < 0x90
     else true)

def scanTwo (lead : Nat) : List Nat → Scan
  | [] => .broken 1 .unexpectedEnd
  | second :: _ =>
      if isContinuation second then .scalar (Char.ofNat ((lead - 0xC0) * 0x40 + (second - 0x80))) 2
      else .broken 1 .invalidContinuation

def scanThree (lead : Nat) : List Nat → Scan
  | [] => .broken 1 .unexpectedEnd
  | second :: rest =>
      if !allowsSecond lead second then .broken 1 .invalidContinuation
      else
        match rest with
        | [] => .broken 2 .unexpectedEnd
        | third :: _ =>
            if isContinuation third then
              .scalar (Char.ofNat
                ((lead - 0xE0) * 0x1000 + (second - 0x80) * 0x40 + (third - 0x80))) 3
            else .broken 2 .invalidContinuation

def scanFour (lead : Nat) : List Nat → Scan
  | [] => .broken 1 .unexpectedEnd
  | second :: rest =>
      if !allowsSecond lead second then .broken 1 .invalidContinuation
      else
        match rest with
        | [] => .broken 2 .unexpectedEnd
        | third :: rest =>
            if !isContinuation third then .broken 2 .invalidContinuation
            else
              match rest with
              | [] => .broken 3 .unexpectedEnd
              | fourth :: _ =>
                  if isContinuation fourth then
                    .scalar (Char.ofNat
                      ((lead - 0xF0) * 0x40000 + (second - 0x80) * 0x1000 +
                        (third - 0x80) * 0x40 + (fourth - 0x80))) 4
                  else .broken 3 .invalidContinuation

/-- Reads what stands at the start of a byte list. -/
def scan : List Nat → Scan
  | [] => .done
  | lead :: rest =>
      if lead < 0x80 then .scalar (Char.ofNat lead) 1
      else if lead < 0xC2 then .broken 1 .invalidStart
      else if lead < 0xE0 then scanTwo lead rest
      else if lead < 0xF0 then scanThree lead rest
      else if lead < 0xF5 then scanFour lead rest
      else .broken 1 .invalidStart

/-- Bytes that are no UTF-8: the first of them, where they start, how many there are, and why. -/
structure Fault where
  lead : Nat
  start : Nat
  width : Nat
  reason : Reason
deriving DecidableEq, Repr

/-- Reads bytes that start at `position` strictly. -/
def decodeFrom (position : Nat) : List Nat → Except Fault Text
  | [] => .ok []
  | lead :: rest =>
      match scan (lead :: rest) with
      | .done => .ok []
      | .scalar c width =>
          (decodeFrom (position + width) (rest.drop (width - 1))).map (c :: ·)
      | .broken width reason => .error ⟨lead, position, width, reason⟩
termination_by bytes => bytes.length
decreasing_by
  rw [List.length_drop, List.length_cons]
  omega

/-- Reads bytes strictly. -/
def decode (bytes : List Nat) : Except Fault Text := decodeFrom 0 bytes

/-- One byte as an escape. -/
def byteEscape (b : Nat) : Text := backslash :: 'x' :: hex 2 b

/-- Reads bytes, showing those that are no UTF-8 as escapes. -/
def decodeShowing : List Nat → Text
  | [] => []
  | lead :: rest =>
      match scan (lead :: rest) with
      | .done => []
      | .scalar c width => c :: decodeShowing (rest.drop (width - 1))
      | .broken width _ =>
          ((lead :: rest).take width).flatMap byteEscape ++ decodeShowing (rest.drop (width - 1))
termination_by bytes => bytes.length
decreasing_by all_goals (rw [List.length_drop, List.length_cons]; omega)

def encode (t : Text) : List UInt8 := t.flatMap String.utf8EncodeChar

def size (t : Text) : Nat := t.foldl (fun total c => total + c.utf8Size) 0

def Reason.message : Reason → Text
  | .invalidStart => "invalid start byte"
  | .invalidContinuation => "invalid continuation byte"
  | .unexpectedEnd => "unexpected end of data"

def Fault.message (fault : Fault) : Text :=
  let place : Text :=
    if fault.width = 1 then
      "byte 0x" ++ hex 2 fault.lead ++ " in position " ++ decimal fault.start
    else
      "bytes in position " ++ decimal fault.start ++ "-" ++
        decimal (fault.start + fault.width - 1)
  "'utf-8' codec can't decode " ++ place ++ ": " ++ fault.reason.message

end CueWatch.Text.Utf8
