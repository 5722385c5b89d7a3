import ClientAccess.Text.Ascii
import ClientAccess.Text.Split
/-! Tables of characters written as rows of words. Numbers are hexadecimal; a range is two of them
with a hyphen between, ends included, or a single one; a sequence has plus signs between. -/
namespace ClientAccess.Text.Table

def number (cs : List Char) : Nat := (readDigits? 16 cs).getD 0

def words (row : String) : List (List Char) :=
  (row.toList.splitOn ' ').filter (!·.isEmpty)

def range (word : List Char) : Nat × Nat :=
  match cutFirst '-' word with
  | some (first, last) => (number first, number last)
  | none => (number word, number word)

def ranges (rows : List String) : List (Nat × Nat) :=
  rows.flatMap fun row => (words row).map range

def sequence (word : List Char) : List Nat :=
  ((word.splitOn '+').filter (!·.isEmpty)).map number

def headed (row : String) : Nat × List (List Char) :=
  match cutFirst ':' row.toList with
  | some (head, rest) => (number head, words (String.ofList rest))
  | none => (0, words row)

def equation (word : List Char) : Nat × Nat :=
  match cutFirst '=' word with
  | some (a, b) => (number a, number b)
  | none => (number word, number word)

def covers (rs : List (Nat × Nat)) (c : Char) : Bool :=
  rs.any fun (first, last) => first ≤ c.toNat && c.toNat ≤ last

end ClientAccess.Text.Table
