/-!
Reading bytes as UTF-8. A sequence that is cut short or broken off is reported with the bytes
that belonged to it.
-/

namespace LanguageShell.Text

inductive Utf8Error.Reason where
  | invalidStart
  | invalidContinuation
  | unexpectedEnd
deriving DecidableEq, Repr

/-- A bad sequence of bytes: where it starts, how long it is, and its first byte. -/
structure Utf8Error where
  reason : Utf8Error.Reason
  start : Nat
  length : Nat
  lead : UInt8
deriving DecidableEq, Repr

namespace Utf8Error

def Reason.message : Reason → String
  | invalidStart => "invalid start byte"
  | invalidContinuation => "invalid continuation byte"
  | unexpectedEnd => "unexpected end of data"

def message (error : Utf8Error) : String :=
  let digits := Nat.toDigits 16 error.lead.toNat
  let lead := String.ofList (List.replicate (2 - digits.length) '0' ++ digits)
  let which :=
    if error.length = 1 then s!"byte 0x{lead} in position {error.start}"
    else s!"bytes in position {error.start}-{error.start + error.length - 1}"
  s!"'utf-8' codec can't decode {which}: {error.reason.message}"

end Utf8Error

/-- What may follow a first byte: how many bytes, the range of the first of them, and the bits
that the first byte contributes. -/
structure Utf8Lead where
  following : Nat
  low : Nat
  high : Nat
  bits : Nat

/-- The sequences that begin with a byte; those for surrogates, for too large code points and
overlong ones are left out. -/
def utf8Lead? (b : Nat) : Option Utf8Lead :=
  if b < 0x80 then some ⟨0, 0, 0, b⟩
  else if b < 0xc2 then none
  else if b < 0xe0 then some ⟨1, 0x80, 0xbf, b - 0xc0⟩
  else if b < 0xf0 then
    some ⟨2, if b = 0xe0 then 0xa0 else 0x80, if b = 0xed then 0x9f else 0xbf, b - 0xe0⟩
  else if b < 0xf5 then
    some ⟨3, if b = 0xf0 then 0x90 else 0x80, if b = 0xf4 then 0x8f else 0xbf, b - 0xf0⟩
  else none

/-- The leading bytes, at most `count` of them, that lie in the range; all after the first may be
any continuation byte. -/
def continuation (count low high : Nat) : List UInt8 → List UInt8
  | [] => []
  | b :: rest =>
    match count with
    | 0 => []
    | count + 1 =>
      if low ≤ b.toNat && b.toNat ≤ high then b :: continuation count 0x80 0xbf rest else []

def decodeUtf8From (position : Nat) (bytes : List UInt8) : Except Utf8Error (List Char) :=
  match bytes with
  | [] => .ok []
  | b :: rest =>
    match utf8Lead? b.toNat with
    | none => .error ⟨.invalidStart, position, 1, b⟩
    | some lead =>
      let found := continuation lead.following lead.low lead.high rest
      if found.length = lead.following then
        let code := found.foldl (fun n c => 64 * n + (c.toNat - 0x80)) lead.bits
        (decodeUtf8From (position + found.length + 1) (rest.drop found.length)).map
          (Char.ofNat code :: ·)
      else
        let reason := if found.length = rest.length then .unexpectedEnd else .invalidContinuation
        .error ⟨reason, position, found.length + 1, b⟩
termination_by bytes.length
decreasing_by simp only [List.length_drop, List.length_cons]; omega

def decodeUtf8 (bytes : List UInt8) : Except Utf8Error (List Char) :=
  decodeUtf8From 0 bytes

end LanguageShell.Text
