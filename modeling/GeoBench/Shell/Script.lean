import GeoBench.Shell.Octets

/-!
# Scripts

What a shell script says once it is read: commands, made of words, and words made of pieces that are
taken as they are or expanded when the command runs.
-/

namespace GeoBench.Shell

/-- What a redirection does with a file. -/
inductive FileUse where
  | reading
  | writing
  | appending
  deriving DecidableEq, Repr

mutual

/-- A **piece** of a word. -/
inductive Piece where
  | plain (text : Octets)
  | quoted (text : Octets)
  | parameter (name : Octets) (treatment : Treatment) (inQuotes : Bool)
  | substitution (script : Command) (inQuotes : Bool)
  | arithmetic (expression : List Piece) (inQuotes : Bool)

/-- What is made of the value of a parameter. With a colon, an empty value counts as none. -/
inductive Treatment where
  | value
  | length
  | usual (colon : Bool) (word : List Piece)
  | assign (colon : Bool) (word : List Piece)
  | demand (colon : Bool) (word : List Piece)
  | instead (colon : Bool) (word : List Piece)
  | withoutStart (longest : Bool) (pattern : List Piece)
  | withoutEnd (longest : Bool) (pattern : List Piece)
  | bad

/-- A **redirection** of a descriptor. -/
inductive Redirection where
  | file (descriptor : Nat) (use : FileUse) (target : List Piece)
  | duplicate (descriptor : Nat) (target : List Piece)
  | here (descriptor : Nat) (text : List Piece)

/-- A **command** of a script. -/
inductive Command where
  | nothing
  | simple (line : Nat) (assignments : List (Octets × List Piece)) (words : List (List Piece))
      (redirections : List Redirection)
  | redirected (body : Command) (redirections : List Redirection)
  | sequence (first second : Command)
  | andThen (first second : Command)
  | orElse (first second : Command)
  | negated (body : Command)
  | pipe (first second : Command)
  | background (body : Command)
  | subshell (body : Command)
  | choice (condition yes no : Command)
  | loop (stopsWhen : Bool) (condition body : Command)
  | each (name : Octets) (words? : Option (List (List Piece))) (body : Command)
  | branch (subject : List Piece) (branches : List (List (List Piece) × Command))
  | define (name : Octets) (body : Command)

end

instance : Inhabited Command := ⟨.nothing⟩

/-- A **word**: pieces without a blank between them. -/
abbrev Word := List Piece

namespace Word

/-- The text of a word that has nothing quoted and nothing to expand. -/
def plainText? : Word → Option Octets
  | [] => some []
  | .plain text :: rest => (plainText? rest).map (text ++ ·)
  | _ :: _ => none

/-- The text of a word without its quotes, where nothing is expanded. -/
def bareText : Word → Octets
  | [] => []
  | .plain text :: rest | .quoted text :: rest => text ++ bareText rest
  | _ :: rest => bareText rest

/-- Whether something in a word is quoted. -/
def isQuoted (w : Word) : Bool :=
  w.any fun
    | .quoted _ => true
    | _ => false

/-- A word with neighbouring plain pieces joined. -/
def joined : Word → Word
  | [] => []
  | .plain text :: rest =>
    match joined rest with
    | .plain more :: others => .plain (text ++ more) :: others
    | others => .plain text :: others
  | other :: rest => other :: joined rest

end Word

/-- Why a script **cannot be read**, with the line where that is seen. -/
structure ScriptFault where
  line : Nat
  text : String
  deriving DecidableEq, Repr

end GeoBench.Shell
