/-
**Words of a shell command.**

`Shell.quote` puts a text between single quotes so that a shell reads it as one word, character for
character: a single quote inside the text ends the quotes, is written after a backslash, and begins
them again.
-/

namespace TouchDispatch.Shell

/-- A text inside single quotes. -/
def quoteBody : List Char → List Char
  | [] => []
  | c :: rest =>
    if c = '\'' then '\'' :: '\\' :: '\'' :: '\'' :: quoteBody rest
    else c :: quoteBody rest

/-- A text as one quoted word. -/
def quote (text : List Char) : List Char :=
  '\'' :: quoteBody text ++ ['\'']

end TouchDispatch.Shell
