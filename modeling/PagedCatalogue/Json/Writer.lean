import PagedCatalogue.Json.Basic
import PagedCatalogue.Text.Hex

namespace PagedCatalogue.Json

open Text

def escape (c : Char) : List Char :=
  if c = '"' ∨ c = '\\' then ['\\', c]
  else if c = '\n' then ['\\', 'n']
  else if c = '\r' then ['\\', 'r']
  else if c = '\t' then ['\\', 't']
  else if c.toNat = 0x08 then ['\\', 'b']
  else if c.toNat = 0x0c then ['\\', 'f']
  else if c.toNat < 0x20 then '\\' :: 'u' :: hex 4 c.toNat
  else [c]

def escapePoint : Point → List Char
  | .char c => escape c
  | p => '\\' :: 'u' :: hex 4 p.toNat

def quote (s : List Point) : List Char := '"' :: (s.flatMap escapePoint ++ ['"'])

mutual

def write : Json → List Char
  | .null => "null".toList
  | .bool true => "true".toList
  | .bool false => "false".toList
  | .number literal => literal.toList
  | .string s => quote s
  | .array [] => ['[', ']']
  | .array (item :: items) => '[' :: (write item ++ writeItems items)
  | .object [] => ['\x7b', '\x7d']
  | .object ((name, value) :: members) =>
    '\x7b' :: (quote name ++ ':' :: (write value ++ writeMembers members))

def writeItems : List Json → List Char
  | [] => [']']
  | item :: items => ',' :: (write item ++ writeItems items)

def writeMembers : List (List Point × Json) → List Char
  | [] => ['\x7d']
  | (name, value) :: members =>
    ',' :: (quote name ++ ':' :: (write value ++ writeMembers members))

end

theorem write_number (literal : String) : write (.number literal) = literal.toList := rfl

theorem write_string (s : List Point) : write (.string s) = quote s := rfl

theorem write_array (item : Json) (items : List Json) :
    write (.array (item :: items)) = '[' :: (write item ++ writeItems items) := rfl

theorem write_object (member : List Point × Json) (members : List (List Point × Json)) :
    write (.object (member :: members)) =
      '\x7b' :: (quote member.1 ++ ':' :: (write member.2 ++ writeMembers members)) := rfl

theorem writeItems_cons (item : Json) (items : List Json) :
    writeItems (item :: items) = ',' :: (write item ++ writeItems items) := rfl

theorem writeMembers_cons (member : List Point × Json) (members : List (List Point × Json)) :
    writeMembers (member :: members) =
      ',' :: (quote member.1 ++ ':' :: (write member.2 ++ writeMembers members)) := rfl

def text (v : Json) : String := String.ofList (write v)

end PagedCatalogue.Json
