import LineShell.Store

namespace LineShell

inductive SymbolName
  | prompt
  | moreLines
  | multiline
  deriving DecidableEq, Repr

namespace SymbolName

def all : List SymbolName := [prompt, moreLines, multiline]

def shownIn : SymbolName → Text
  | prompt => "PROMPT".text
  | moreLines => "MORELINES".text
  | multiline => "MULTILINE".text

def ofVariable? (name : Text) : Option SymbolName :=
  all.find? fun symbol => symbol.shownIn = name

end SymbolName

structure Symbols where
  prompt : Text
  moreLines : Text
  multiline : Text
  deriving DecidableEq, Repr

namespace Symbols

def standard : Symbols := ⟨['>'], ['\\'], ['|']⟩

def get (symbols : Symbols) : SymbolName → Text
  | .prompt => symbols.prompt
  | .moreLines => symbols.moreLines
  | .multiline => symbols.multiline

def set (symbols : Symbols) (name : SymbolName) (symbol : Text) : Symbols :=
  match name with
  | .prompt => { symbols with prompt := symbol }
  | .moreLines => { symbols with moreLines := symbol }
  | .multiline => { symbols with multiline := symbol }

end Symbols

end LineShell
