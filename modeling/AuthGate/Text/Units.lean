namespace AuthGate.Text

def unitsOf (c : Char) : List UInt16 :=
  let n := c.toNat
  if n < 0x10000 then [n.toUInt16]
  else [(0xD800 + (n - 0x10000) / 1024).toUInt16, (0xDC00 + (n - 0x10000) % 1024).toUInt16]

def units (s : String) : List UInt16 := s.toList.flatMap unitsOf

def unitsLE (s t : String) : Bool := decide (units s ≤ units t)

def isHigh (u : UInt16) : Bool := 0xD800 ≤ u && u ≤ 0xDBFF

def isLow (u : UInt16) : Bool := 0xDC00 ≤ u && u ≤ 0xDFFF

def isHalf (u : UInt16) : Bool := isHigh u || isLow u

def joinHalves (u v : UInt16) : Char :=
  Char.ofNat (0x10000 + (u.toNat - 0xD800) * 1024 + (v.toNat - 0xDC00))

end AuthGate.Text
