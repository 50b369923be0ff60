/-!
# Indented JSON

A tree of numbers, names, lists and records, and its text with one entry per line, indented by two
blanks per level; empty lists and records stay on one line. The text is given as the sequence of
pieces in which it is written, because an output that refuses a piece keeps those before it. Names
are plain words that need no escapes.
-/

namespace TraceReplay

/-- A tree to be written as JSON. -/
inductive JsonText
  | number (value : Nat)
  | name (word : String)
  | list (items : List JsonText)
  | record (fields : List (String × JsonText))

namespace JsonText

/-- The indentation of a level, one piece per step. -/
def indent (level : Nat) : List String := List.replicate level "  "

def quoted (word : String) : List String := ["\"", word, "\""]

mutual

/-- The pieces of a tree that starts at a level. -/
def pieces (level : Nat) : JsonText → List String
  | number value => [toString value]
  | name word => quoted word
  | list [] => ["[", "]"]
  | list (item :: items) =>
    ["[", "\n"] ++ indent (level + 1) ++ item.pieces (level + 1)
      ++ laterItems (level + 1) items ++ ["\n"] ++ indent level ++ ["]"]
  | record [] => ["\x7b", "\x7d"]
  | record ((key, value) :: fields) =>
    ["\x7b", "\n"] ++ indent (level + 1) ++ quoted key ++ [": "] ++ value.pieces (level + 1)
      ++ laterFields (level + 1) fields ++ ["\n"] ++ indent level ++ ["\x7d"]

/-- The items of a list after the first. -/
def laterItems (level : Nat) : List JsonText → List String
  | [] => []
  | item :: items =>
    [",\n"] ++ indent level ++ item.pieces level ++ laterItems level items

/-- The fields of a record after the first. -/
def laterFields (level : Nat) : List (String × JsonText) → List String
  | [] => []
  | (key, value) :: fields =>
    [",\n"] ++ indent level ++ quoted key ++ [": "] ++ value.pieces level
      ++ laterFields level fields

end

/-- The whole text of a tree. -/
def render (tree : JsonText) : String := String.join (tree.pieces 0)

end JsonText

end TraceReplay
