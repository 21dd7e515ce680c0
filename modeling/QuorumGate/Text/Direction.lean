import QuorumGate.Text.Mark

/-!
# Directions of writing

The direction of the letters of host names. Ranges may run over characters that are no letters of
host names.
-/

namespace QuorumGate.Text

inductive Direction where
  | leftToRight
  | rightToLeft
  | arabic
  | arabicNumber
  | europeanNumber
  | mark
  | neutral
  deriving DecidableEq, Repr

def rightToLeftRanges : List (Nat × Nat) :=
  [(0x5D0, 0x5F4), (0x7C0, 0x7EA), (0x7F4, 0x7F5), (0x800, 0x815), (0x81A, 0x81A), (0x824, 0x824),
   (0x828, 0x828), (0x840, 0x858), (0x10800, 0x10A00), (0x10A10, 0x10A35), (0x10A60, 0x10AE4),
   (0x10B00, 0x10CF2), (0x10E80, 0x10EA9), (0x10EB0, 0x10F27), (0x10F70, 0x10F81),
   (0x10FB0, 0x10FF6), (0x1E800, 0x1E8C4), (0x1E922, 0x1E943), (0x1E94B, 0x1E959)]

def arabicRanges : List (Nat × Nat) :=
  [(0x620, 0x64A), (0x66E, 0x66F), (0x671, 0x6D5), (0x6E5, 0x6E6), (0x6EE, 0x710), (0x712, 0x72F),
   (0x74D, 0x7A5), (0x7B1, 0x7B1), (0x860, 0x88E), (0x8A0, 0x8C9), (0xFE73, 0xFE73),
   (0x10D00, 0x10D23), (0x10F30, 0x10F45)]

def arabicNumbers : List (Nat × Nat) := [(0x660, 0x669), (0x10D30, 0x10D39)]

def europeanNumbers : List (Nat × Nat) := [(0x30, 0x39), (0x6F0, 0x6F9)]

def neutralRanges : List (Nat × Nat) :=
  [(0x2D, 0x2D), (0xB7, 0xB7), (0x2B9, 0x2BA), (0x2C6, 0x2CF), (0x2EC, 0x2EC), (0x375, 0x375),
   (0x200C, 0x200D), (0x2E2F, 0x2E2F), (0x30FB, 0x30FB), (0xA67F, 0xA67F), (0xA717, 0xA71F),
   (0xA788, 0xA788)]

def direction (c : Char) : Direction :=
  if within europeanNumbers c then .europeanNumber
  else if within arabicNumbers c then .arabicNumber
  else if within neutralRanges c then .neutral
  else if isNonspacing c then .mark
  else if within rightToLeftRanges c then .rightToLeft
  else if within arabicRanges c then .arabic
  else .leftToRight

end QuorumGate.Text
