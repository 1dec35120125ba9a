namespace PaperTape.Text

def alignRight (fill : Char) (width : Nat) (text : String) : String :=
  String.ofList (List.replicate (width - text.length) fill) ++ text

def decimal (number : Nat) : String := String.ofList (Nat.toDigits 10 number)

def octal (number : Nat) : String := String.ofList (Nat.toDigits 8 number)

def octalWide (width number : Nat) : String := alignRight '0' width (octal number)

def hexByte (byte : UInt8) : String :=
  "0x" ++ alignRight '0' 2 (String.ofList (Nat.toDigits 16 byte.toNat))

end PaperTape.Text
