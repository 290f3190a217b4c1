/-
# Log lines

Messages have a level.  A logger writes the messages whose level ranks at least as
high as its own, one line each: an optional stamp, the level in brackets and right
aligned, the name of the logger in brackets, and the text.
-/

namespace Chip8

/-- A message before it is written. -/
structure LogEntry where
  level : String
  text : String
deriving DecidableEq, Repr

/-- Which messages are written, and how. -/
structure Logger where
  name : String
  level : String
  coloured : Bool
  /-- What stands for the time in front of each line; empty for no stamp. -/
  stamp : String
deriving DecidableEq, Repr

namespace Log

/-- The upper-case form of a character, as far as it decides whether a level is one
of the known names: besides the small letters of ASCII, the dotless i and the long
s are the only characters whose upper-case form is a single ASCII letter. -/
def upperChar (c : Char) : Char :=
  if c = 'ı' then 'I' else if c = 'ſ' then 'S' else c.toUpper

/-- The form of a level in which it is looked up. -/
def upper (level : String) : String := level.map upperChar

/-- The known levels, the least important first. -/
def levels : List String := ["DEBUG", "INFO", "WARNING", "ERROR", "CRITICAL"]

/-- The rank of a level.  Unknown levels rank like `INFO`. -/
def rank (level : String) : Nat := (levels.idxOf? (upper level)).getD 1

/-- The code that ends a colour. -/
def resetCode : String := "\x1b[0m"

/-- The codes that begin the colours of the levels; a level named like the end of a
colour ends it. -/
def colourCodes : List (String × String) :=
  [("DEBUG", "\x1b[36m"), ("INFO", "\x1b[32m"), ("WARNING", "\x1b[33m"), ("ERROR", "\x1b[31m"),
   ("CRITICAL", "\x1b[35m"), ("RESET", resetCode)]

/-- The code that begins the colour of a level, or nothing for an unknown level. -/
def colourCode (level : String) : String := (colourCodes.lookup (upper level)).getD ""

/-- The number of characters to which levels are aligned. -/
def levelWidth : Nat := 8

/-- A level in brackets, with spaces before it up to the common width. -/
def bracketed (level : String) : String :=
  "[" ++ String.ofList (List.replicate (levelWidth - level.length) ' ') ++ level ++ "]"

end Log

namespace Logger

/-- Whether a message of a level is written. -/
def accepts (logger : Logger) (level : String) : Bool :=
  Log.rank logger.level ≤ Log.rank level

/-- The line of a message. -/
def line (logger : Logger) (entry : LogEntry) : String :=
  let level := Log.bracketed entry.level
  let painted :=
    if logger.coloured then Log.colourCode entry.level ++ level ++ Log.resetCode else level
  logger.stamp ++ painted ++ "[" ++ logger.name ++ "] " ++ entry.text

/-- The lines that a logger writes for messages. -/
def lines (logger : Logger) (entries : List LogEntry) : List String :=
  (entries.filter fun entry => logger.accepts entry.level).map logger.line

/-- Messages that follow each other are written one after the other. -/
theorem lines_append (logger : Logger) (first second : List LogEntry) :
    logger.lines (first ++ second) = logger.lines first ++ logger.lines second := by
  simp [lines]

end Logger

end Chip8
