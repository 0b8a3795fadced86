import CloudOps.ServiceError
import Mathlib.Algebra.Ring.Int.Defs
import Mathlib.Algebra.Ring.Nat
import Mathlib.Data.List.Basic
import Mathlib.Tactic.Common

namespace CloudOps.Platform

-- HMAC-SHA1 is any function to 20 bytes: no decision depends on what it computes.
abbrev HmacSha1 := List UInt8 → List UInt8 → Vector UInt8 20

def BASE32_ALPHABET : List Char := "ABCDEFGHIJKLMNOPQRSTUVWXYZ234567".toList
def STEP_SECONDS : Nat := 30
def DIGITS : Nat := 6

-- `n.toString(2).padStart(width, '0')`
def toBits (width n : Nat) : List Bool := (List.range width).reverse.map n.testBit

-- `parseInt(bits, 2)`
def ofBits (bits : List Bool) : Nat := bits.foldl (fun n bit => 2 * n + bit.toNat) 0

-- The numbers of the full groups of `size` bits; bits left over are dropped.
def bitGroups (size : Nat) (bits : List Bool) : List Nat :=
  (List.range (bits.length / size)).map fun i => ofBits ((bits.drop (i * size)).take size)

-- A fresh secret out of 20 random bytes, base32-encoded without padding.
def generateTotpSecret (randomBytes : Vector UInt8 20) : String :=
  let bits := randomBytes.toList.flatMap fun byte => toBits 8 byte.toNat
  String.ofList ((bitGroups 5 bits).map fun i => BASE32_ALPHABET.getD i 'A')

-- What \s matches and trim removes.
def isWhitespace (c : Char) : Bool :=
  [9, 10, 11, 12, 13, 32, 160, 5760, 8232, 8233, 8239, 8287, 12288, 65279].contains c.toNat ||
    (decide (8192 ≤ c.toNat) && decide (c.toNat ≤ 8202))

def trim (text : List Char) : List Char :=
  ((text.dropWhile isWhitespace).reverse.dropWhile isWhitespace).reverse

-- toUpperCase, as far as it leads to a letter of the alphabet. Other characters
-- become characters that the decoder skips, and are left as they are.
def upperCase (c : Char) : List Char :=
  match c.toNat with
  | 0xDF => ['S', 'S']
  | 0x131 => ['I']
  | 0x149 => ['N']
  | 0x17F => ['S']
  | 0x1F0 => ['J']
  | 0x1E96 => ['H']
  | 0x1E97 => ['T']
  | 0x1E98 => ['W']
  | 0x1E99 => ['Y']
  | 0x1E9A => ['A']
  | 0xFB00 => ['F', 'F']
  | 0xFB01 => ['F', 'I']
  | 0xFB02 => ['F', 'L']
  | 0xFB03 => ['F', 'F', 'I']
  | 0xFB04 => ['F', 'F', 'L']
  | 0xFB05 => ['S', 'T']
  | 0xFB06 => ['S', 'T']
  | _ => [c.toUpper]

def base32Decode (input : List Char) : List UInt8 :=
  let unpadded := (input.reverse.dropWhile (· == '=')).reverse
  let clean := (unpadded.flatMap upperCase).filter fun c => !isWhitespace c
  let bits := clean.flatMap fun c =>
    match BASE32_ALPHABET.idxOf? c with
    | none => []
    | some i => toBits 5 i
  (bitGroups 8 bits).map UInt8.ofNat

def uint32BE (n : Nat) : List UInt8 :=
  [n / 2 ^ 24, n / 2 ^ 16, n / 2 ^ 8, n].map UInt8.ofNat

-- Before the first time step the counter is negative, which no buffer holds.
def hotp (hmac : HmacSha1) (secret : List Char) (counter : Int) : Except ServiceError (List Char) :=
  let high := counter / 2 ^ 32
  if high < 0 ∨ high ≥ 2 ^ 32 then
    .error (.error "The value of \"value\" is out of range.")
  else
    let buf := uint32BE high.toNat ++ uint32BE (counter % 2 ^ 32).toNat
    let digest := (hmac (base32Decode secret) buf).toList.map UInt8.toNat
    let offset := digest.getD 19 0 % 16
    let binary := digest.getD offset 0 % 128 * 2 ^ 24 + digest.getD (offset + 1) 0 * 2 ^ 16 +
      digest.getD (offset + 2) 0 * 2 ^ 8 + digest.getD (offset + 3) 0
    let digits := (toString (binary % 10 ^ DIGITS)).toList
    .ok (List.replicate (DIGITS - digits.length) '0' ++ digits)

def counterAt (now : Nat) : Int := (now / 1000 / STEP_SECONDS : Nat)

def totpCodeAt (hmac : HmacSha1) (secret : List Char) (now : Nat) : Except ServiceError (List Char) :=
  hotp hmac secret (counterAt now)

-- /^\d{6}$/
def isSixDigits (code : List Char) : Bool := decide (code.length = 6) && code.all Char.isDigit

def matchesWindow (hmac : HmacSha1) (secret trimmed : List Char) (counter : Int) :
    List Int → Except ServiceError Bool
  | [] => .ok false
  | window :: rest => do
      let expected ← hotp hmac secret (counter + window)
      if expected = trimmed then return true
      else matchesWindow hmac secret trimmed counter rest

-- A column that is NULL gives a null secret, on which the decoder throws.
def verifyTotp (hmac : HmacSha1) (secret : Option String) (code : String) (now : Nat) :
    Except ServiceError Bool :=
  let trimmed := trim code.toList
  if !isSixDigits trimmed then .ok false
  else match secret with
    | none => .error (.error "Cannot read properties of null (reading 'replace')")
    | some secret => matchesWindow hmac secret.toList trimmed (counterAt now) [-1, 0, 1]

def hexDigit (n : Nat) : Char := "0123456789ABCDEF".toList.getD n '0'

def encodeURIComponent (text : String) : String :=
  String.ofList (text.toUTF8.toList.flatMap fun byte =>
    let c := Char.ofNat byte.toNat
    if (decide (byte.toNat < 128) && c.isAlphanum) || "-_.!~*'()".toList.contains c then [c]
    else ['%', hexDigit (byte.toNat / 16), hexDigit (byte.toNat % 16)])

-- The secret is base32, so the query string needs no escape but the issuer's spaces.
def otpauthUri (secret accountName : String) : String :=
  let label := encodeURIComponent s!"Cloud Ops Tool:{accountName}"
  let params := s!"secret={secret}&issuer=Cloud+Ops+Tool&algorithm=SHA1&digits={DIGITS}&period={STEP_SECONDS}"
  s!"otpauth://totp/{label}?{params}"

end CloudOps.Platform
