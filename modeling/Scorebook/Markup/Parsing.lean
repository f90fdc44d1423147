import Scorebook.Markup.Builder.Foreign
import Scorebook.Markup.Lexer

/-!
# Parsing pages

Every text is a page: the lexer and the builder accept whatever comes.  They run together, because
the builder tells the lexer how to read what follows a start tag.
-/

namespace Scorebook.Markup

namespace Builder

/-- Takes a token until it has been dealt with, in a number of rounds. -/
def takeRounds (t : Token) : Nat → Builder → Builder
  | 0, b => b
  | rounds + 1, b =>
    match if b.takesForeign t then b.inForeign t else b.takeInMode t with
    | .done b => b
    | .again b => takeRounds t rounds b

/-- A bound for the rounds that one token takes: every round but a few closes an element or leaves a
template. -/
def roundsFor (b : Builder) : Nat := b.stack.length + b.templateModes.length + 24

def takeChar (b : Builder) (c : Char) : Builder :=
  if b.dropsLineFeed && c == '\n' then { b with dropsLineFeed := false }
  else
    let b := { b with dropsLineFeed := false }
    takeRounds (.text [c]) b.roundsFor b

def take (b : Builder) : Token → Builder
  | .text cs => cs.foldl takeChar b
  | t =>
    let b := { b with dropsLineFeed := false }
    takeRounds t b.roundsFor b

end Builder

/-- Lexer and builder at work. -/
structure Parser where
  lexer : Lexer
  builder : Builder

namespace Parser

/-- Takes tokens, and tells the lexer how to read on. -/
def takeTokens (p : Parser) (tokens : List Token) : Parser :=
  let b := tokens.foldl Builder.take p.builder
  match b.content with
  | some content => ⟨p.lexer.switchTo content, { b with content := none }⟩
  | none => ⟨p.lexer, b⟩

def step (p : Parser) (c : Char) : Parser :=
  let (lexer, tokens) := p.lexer.step p.builder.isForeign c
  takeTokens ⟨lexer, p.builder⟩ tokens

end Parser

def parse (page : String) : Document :=
  let p := (pageChars page).foldl Parser.step ⟨.initial, .start⟩
  let b := p.lexer.finish.foldl Builder.take p.builder
  b.arena.toDocument

end Scorebook.Markup
