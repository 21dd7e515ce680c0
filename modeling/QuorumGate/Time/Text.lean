import QuorumGate.Time.Instant

/-!
# Instants as text

One form for messages and one for JSON. They differ in the letter between date and time and in
how UTC is written.
-/

namespace QuorumGate.Instant

def digit (n : Nat) : Char := Char.ofNat ('0'.toNat + n % 10)

def twoDigits (n : Nat) : List Char := [digit (n / 10), digit n]

def fourDigits (n : Nat) : List Char := [digit (n / 1000), digit (n / 100), digit (n / 10), digit n]

def sixDigits (n : Nat) : List Char :=
  [digit (n / 100000), digit (n / 10000), digit (n / 1000), digit (n / 100), digit (n / 10),
   digit n]

def dateChars (d : Date) : List Char :=
  fourDigits d.year ++ '-' :: twoDigits d.month ++ '-' :: twoDigits d.day

/-- Hours, minutes and seconds, and the fraction of a second unless it is zero. -/
def clockChars (micros : Nat) : List Char :=
  let seconds := micros / microsPerSecond
  let fraction := micros % microsPerSecond
  twoDigits (seconds / 3600) ++ ':' :: twoDigits (seconds / 60 % 60) ++ ':' ::
    twoDigits (seconds % 60) ++ (if fraction = 0 then [] else '.' :: sixDigits fraction)

def offsetChars (o : Offset) : List Char :=
  let m := o.minutes.natAbs
  (if o.minutes < 0 then '-' else '+') :: (twoDigits (m / 60) ++ ':' :: twoDigits (m % 60))

/-- How a reading is laid out. -/
structure Format where
  separator : Char
  utc : Option Char

def inMessages : Format := ⟨' ', none⟩

def inJson : Format := ⟨'T', some 'Z'⟩

def Format.zone (f : Format) : Option Offset → List Char
  | none => []
  | some o =>
    match f.utc with
    | some z => if o.minutes = 0 then [z] else offsetChars o
    | none => offsetChars o

def Format.chars (f : Format) (t : Instant) : List Char :=
  dateChars t.date ++ f.separator :: clockChars t.micros ++ f.zone t.offset

def text (t : Instant) : String := String.ofList (inMessages.chars t)

def iso (t : Instant) : String := String.ofList (inJson.chars t)

/-- An optional reading in a message. -/
def displayOption (nothing : String) : Option Instant → String
  | some t => t.text
  | none => nothing

end QuorumGate.Instant
