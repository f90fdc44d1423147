import Scorebook.Markup.Doctype
import Scorebook.Markup.Reference
import Scorebook.Markup.Token

/-!
# Cutting markup into tokens

The lexer is a machine that takes one character at a time.  Text is gathered until markup may start,
and its references are replaced when it is given out.  A start tag may change how the text behind it
is read, which the builder of the tree decides; so the machine is told by `switchTo`.
-/

namespace Scorebook.Markup

/-- Whether a character may start a tag name. -/
def isLetter (c : Char) : Bool := c.isAlpha

/-- A character as names and values keep it. -/
def kept (c : Char) : Char := if c = '\x00' then replacement else c

/-- How deep text of a script lies in a comment, with the dashes just read. -/
inductive Cover where
  | bare
  | comment (dashes : Nat)
  /-- Inside a script tag inside a comment. -/
  | nested (dashes : Nat)
deriving DecidableEq, Repr

inductive LexState where
  | data
  | plain
  /-- Text that only its end tag ends. -/
  | raw (cover : Cover)
  | rawLess (cover : Cover)
  | rawEndOpen (cover : Cover)
  | rawEndName (cover : Cover) (name : List Char)
  | coverStart (dashes : Nat)
  | nestedStart (name : List Char)
  | nestedLess
  | nestedEnd (name : List Char)
  | tagOpen
  | endTagOpen
  | tagName
  | beforeAttribute
  | attributeName
  | afterAttributeName
  | beforeValue
  | quotedValue (quote : Char)
  | bareValue
  | afterValue
  | selfClosing
  | bogusComment
  | declaration (read : List Char)
  | commentStart
  | commentStartDash
  | comment
  | commentEndDash
  | commentEnd
  | commentEndBang
  | doctype (read : List Char)
  | characterData (brackets : Nat)
deriving DecidableEq, Repr

/-- The machine.  Texts under construction have their last character first. -/
structure Lexer where
  state : LexState
  /-- How the text is read, while only its end tag is markup. -/
  content : Content
  text : List Char
  /-- The name of the last start tag. -/
  lastStart : List Char
  isEndTag : Bool
  tagName : List Char
  attributes : List (String × String)
  attributeName : List Char
  value : List Char
  /-- Whether an attribute is under construction. -/
  inAttribute : Bool

namespace Lexer

/-- The machine at the start of a page. -/
def initial : Lexer := ⟨.data, .data, [], [], false, [], [], [], [], false⟩

/-- The machine, told how the text behind a start tag is read. -/
def switchTo (l : Lexer) (content : Content) : Lexer :=
  match content with
  | .data => { l with state := .data, content := content }
  | .plain => { l with state := .plain, content := content }
  | _ => { l with state := .raw .bare, content := content }

/-- The gathered text as a token, its references replaced where they count. -/
def textTokens (l : Lexer) : List Token :=
  let cs := l.text.reverse
  if cs.isEmpty then []
  else
    match l.content with
    | .data => [.text (decodeText cs)]
    | .referenceText => [.text (decodeText cs)]
    | _ => [.text cs]

def push (l : Lexer) (c : Char) : Lexer := { l with text := c :: l.text }

def pushAll (l : Lexer) (cs : List Char) : Lexer := { l with text := cs.reverse ++ l.text }

def goto (l : Lexer) (state : LexState) : Lexer := { l with state := state }

def startTag (l : Lexer) (isEnd : Bool) (name : List Char) : Lexer :=
  { l with
    state := .tagName
    isEndTag := isEnd
    tagName := name
    attributes := []
    inAttribute := false }

/-- Ends the attribute under construction; one with a name that the tag has already is dropped. -/
def endAttribute (l : Lexer) : Lexer :=
  if l.inAttribute then
    let name := String.ofList l.attributeName.reverse
    let value := String.ofList (decodeAttribute l.value.reverse)
    let attributes :=
      if l.attributes.any fun a => a.1 == name then l.attributes
      else l.attributes ++ [(name, value)]
    { l with attributes := attributes, inAttribute := false }
  else l

def startAttribute (l : Lexer) (c : Char) : Lexer :=
  { l.endAttribute with
    state := .attributeName
    attributeName := [kept c.toLower]
    value := []
    inAttribute := true }

def endTag (l : Lexer) (selfClosing : Bool) : Lexer × List Token :=
  let l := l.endAttribute
  let name := String.ofList l.tagName.reverse
  let token : Token :=
    if l.isEndTag then .endTag name else .startTag ⟨name, l.attributes, selfClosing⟩
  ({ l with
      state := .data
      content := .data
      text := []
      lastStart := if l.isEndTag then l.lastStart else l.tagName.reverse },
    [token])

def endComment (l : Lexer) : Lexer × List Token := (l.goto .data, [.comment])

/-! ### Text -/

def inData (l : Lexer) (c : Char) : Lexer × List Token :=
  if c = '<' then ({ l with state := .tagOpen, text := [] }, l.textTokens)
  else ((l.push c).goto .data, [])

/-- A character of text that only its end tag ends. -/
def inRaw (l : Lexer) (cover : Cover) (c : Char) : Lexer × List Token :=
  if l.content ≠ .script then
    if c = '<' then (l.goto (.rawLess .bare), []) else ((l.push (kept c)).goto (.raw .bare), [])
  else
    match cover with
    | .bare =>
      if c = '<' then (l.goto (.rawLess .bare), []) else ((l.push (kept c)).goto (.raw .bare), [])
    | .comment dashes =>
      if c = '<' then (l.goto (.rawLess (.comment 0)), [])
      else
        let next : Cover :=
          if c = '-' then .comment (min 2 (dashes + 1))
          else if c = '>' ∧ dashes = 2 then .bare
          else .comment 0
        ((l.push (kept c)).goto (.raw next), [])
    | .nested dashes =>
      if c = '<' then ((l.push c).goto .nestedLess, [])
      else
        let next : Cover :=
          if c = '-' then .nested (min 2 (dashes + 1))
          else if c = '>' ∧ dashes = 2 then .bare
          else .nested 0
        ((l.push (kept c)).goto (.raw next), [])

def endsName (c : Char) : Bool := isMarkupBlank c || c == '/' || c == '>'

def inRawLess (l : Lexer) (cover : Cover) (c : Char) : Lexer × List Token :=
  if c = '/' then (l.goto (.rawEndOpen cover), [])
  else if l.content = .script ∧ cover = .bare ∧ c = '!' then
    ((l.pushAll ['<', '!']).goto (.coverStart 0), [])
  else if l.content = .script ∧ cover ≠ .bare ∧ isLetter c then
    (((l.push '<').push c).goto (.nestedStart [c.toLower]), [])
  else inRaw (l.push '<') cover c

/-- A character of the name behind `</` in such text; only the name of the element ends it. -/
def inRawEndName (l : Lexer) (cover : Cover) (name : List Char) (c : Char) :
    Lexer × List Token :=
  if isLetter c then (l.goto (.rawEndName cover (c :: name)), [])
  else if endsName c ∧ lowered name.reverse = l.lastStart then
    let tokens := l.textTokens
    let l := { l.startTag true (lowered name) with text := [], content := .data }
    if c = '>' then
      let (l, tags) := l.endTag false
      (l, tokens ++ tags)
    else if c = '/' then (l.goto .selfClosing, tokens)
    else (l.goto .beforeAttribute, tokens)
  else inRaw (l.pushAll ('<' :: '/' :: name.reverse)) cover c

/-- The name whose tags hide the end tag of a script. -/
def scriptName : List Char := "script".toList

/-- A character of a tag name inside a comment of a script.  When the name is that of a script, text
goes on with `same`, and otherwise with `other`. -/
def inHiddenName (l : Lexer) (name : List Char) (same other : Cover)
    (again : List Char → LexState) (c : Char) : Lexer × List Token :=
  if endsName c then
    ((l.push c).goto (.raw (if name.reverse = scriptName then same else other)), [])
  else if isLetter c then ((l.push c).goto (again (c.toLower :: name)), [])
  else inRaw l other c

/-! ### Tags -/

def inBeforeAttribute (l : Lexer) (c : Char) : Lexer × List Token :=
  if isMarkupBlank c then (l.goto .beforeAttribute, [])
  else if c = '/' then (l.goto .selfClosing, [])
  else if c = '>' then l.endTag false
  else (l.startAttribute c, [])

def inTagName (l : Lexer) (c : Char) : Lexer × List Token :=
  if isMarkupBlank c then (l.goto .beforeAttribute, [])
  else if c = '/' then (l.goto .selfClosing, [])
  else if c = '>' then l.endTag false
  else ({ l with tagName := kept c.toLower :: l.tagName }, [])

def inAttributeName (l : Lexer) (c : Char) : Lexer × List Token :=
  if isMarkupBlank c then (l.goto .afterAttributeName, [])
  else if c = '/' then (l.endAttribute.goto .selfClosing, [])
  else if c = '=' then (l.goto .beforeValue, [])
  else if c = '>' then l.endTag false
  else ({ l with attributeName := kept c.toLower :: l.attributeName }, [])

def inAfterAttributeName (l : Lexer) (c : Char) : Lexer × List Token :=
  if isMarkupBlank c then (l, [])
  else if c = '/' then (l.endAttribute.goto .selfClosing, [])
  else if c = '=' then (l.goto .beforeValue, [])
  else if c = '>' then l.endTag false
  else (l.startAttribute c, [])

def inBeforeValue (l : Lexer) (c : Char) : Lexer × List Token :=
  if isMarkupBlank c then (l, [])
  else if c = '"' ∨ c = '\x27' then (l.goto (.quotedValue c), [])
  else if c = '>' then l.endTag false
  else ({ l with state := .bareValue, value := [kept c] }, [])

/-! ### Declarations -/

def declarationStarts : List (List Char) := ["--".toList, "doctype".toList, "[CDATA[".toList]

/-- What the characters behind `<!` may still become.  Only the document type may be written in any
case. -/
def mayBecome (read start : List Char) : Bool :=
  let read := if start = "doctype".toList then lowered read else read
  (Text.afterStart? read start).isSome

/-- A character of a comment that started in another way. -/
def inBogusComment (l : Lexer) (c : Char) : Lexer × List Token :=
  if c = '>' then l.endComment else (l.goto .bogusComment, [])

/-- A character behind `<!`.  Character data are allowed in foreign elements only. -/
def inDeclaration (foreign : Bool) (l : Lexer) (read : List Char) (c : Char) :
    Lexer × List Token :=
  let read := read ++ [c]
  match declarationStarts.find? (mayBecome read) with
  | none => inBogusComment l c
  | some start =>
    if read.length < start.length then (l.goto (.declaration read), [])
    else if start = "--".toList then (l.goto .commentStart, [])
    else if start = "doctype".toList then (l.goto (.doctype []), [])
    else if foreign then ({ l with state := .characterData 0, content := .rawText }, [])
    else (l.goto .bogusComment, [])

def inCharacterData (l : Lexer) (brackets : Nat) (c : Char) : Lexer × List Token :=
  if c = ']' then
    if brackets = 2 then (l.push ']', []) else (l.goto (.characterData (brackets + 1)), [])
  else if c = '>' ∧ brackets = 2 then
    ({ l with state := .data, content := .data, text := [] }, l.textTokens)
  else
    (((l.pushAll (List.replicate brackets ']')).push c).goto (.characterData 0), [])

/-! ### The machine -/

/-- Takes one character and gives the tokens that it completes.  `foreign` tells whether the current
element is none of the page's own language. -/
def step (foreign : Bool) (l : Lexer) (c : Char) : Lexer × List Token :=
  match l.state with
  | .data => inData l c
  | .plain => (l.push (kept c), [])
  | .raw cover => inRaw l cover c
  | .rawLess cover => inRawLess l cover c
  | .rawEndOpen cover =>
    if isLetter c then (l.goto (.rawEndName cover [c]), [])
    else inRaw (l.pushAll ['<', '/']) cover c
  | .rawEndName cover name => inRawEndName l cover name c
  | .coverStart dashes =>
    if c = '-' then
      ((l.push c).goto (if dashes = 0 then .coverStart 1 else .raw (.comment 2)), [])
    else inRaw l .bare c
  | .nestedStart name => inHiddenName l name (.nested 0) (.comment 0) .nestedStart c
  | .nestedLess =>
    if c = '/' then ((l.push c).goto (.nestedEnd []), []) else inRaw l (.nested 0) c
  | .nestedEnd name => inHiddenName l name (.comment 0) (.nested 0) .nestedEnd c
  | .tagOpen =>
    if c = '!' then (l.goto (.declaration []), [])
    else if c = '/' then (l.goto .endTagOpen, [])
    else if c = '?' then (l.goto .bogusComment, [])
    else if isLetter c then (l.startTag false [c.toLower], [])
    else inData (l.push '<') c
  | .endTagOpen =>
    if isLetter c then (l.startTag true [c.toLower], [])
    else if c = '>' then (l.goto .data, [])
    else (l.goto .bogusComment, [])
  | .tagName => inTagName l c
  | .beforeAttribute => inBeforeAttribute l c
  | .attributeName => inAttributeName l c
  | .afterAttributeName => inAfterAttributeName l c
  | .beforeValue => inBeforeValue l c
  | .quotedValue quote =>
    if c = quote then (l.endAttribute.goto .afterValue, [])
    else ({ l with value := kept c :: l.value }, [])
  | .bareValue =>
    if isMarkupBlank c then (l.endAttribute.goto .beforeAttribute, [])
    else if c = '>' then l.endTag false
    else ({ l with value := kept c :: l.value }, [])
  | .afterValue => inBeforeAttribute l c
  | .selfClosing => if c = '>' then l.endTag true else inBeforeAttribute l c
  | .bogusComment => inBogusComment l c
  | .declaration read => inDeclaration foreign l read c
  | .commentStart =>
    if c = '-' then (l.goto .commentStartDash, [])
    else if c = '>' then l.endComment
    else (l.goto .comment, [])
  | .commentStartDash =>
    if c = '-' then (l.goto .commentEnd, [])
    else if c = '>' then l.endComment
    else (l.goto .comment, [])
  | .comment => if c = '-' then (l.goto .commentEndDash, []) else (l, [])
  | .commentEndDash => (l.goto (if c = '-' then .commentEnd else .comment), [])
  | .commentEnd =>
    if c = '>' then l.endComment
    else if c = '!' then (l.goto .commentEndBang, [])
    else if c = '-' then (l, [])
    else (l.goto .comment, [])
  | .commentEndBang =>
    if c = '-' then (l.goto .commentEndDash, [])
    else if c = '>' then l.endComment
    else (l.goto .comment, [])
  | .doctype read =>
    if c = '>' then (l.goto .data, [.doctype (readDoctype read.reverse).isOld])
    else (l.goto (.doctype (c :: read)), [])
  | .characterData brackets => inCharacterData l brackets c

/-- The tokens at the end of the page: what is left of the text, or a comment that was not closed.
A tag that was not closed is dropped. -/
def finish (l : Lexer) : List Token :=
  let last : List Token :=
    match l.state with
    | .tagOpen => [.text ['<']]
    | .endTagOpen => [.text ['<', '/']]
    | .rawLess _ => (l.push '<').textTokens
    | .rawEndOpen _ => (l.pushAll ['<', '/']).textTokens
    | .rawEndName _ name => (l.pushAll ('<' :: '/' :: name.reverse)).textTokens
    | .characterData brackets => (l.pushAll (List.replicate brackets ']')).textTokens
    | .bogusComment => [.comment]
    | .declaration _ => [.comment]
    | .commentStart => [.comment]
    | .commentStartDash => [.comment]
    | .comment => [.comment]
    | .commentEndDash => [.comment]
    | .commentEnd => [.comment]
    | .commentEndBang => [.comment]
    | .doctype _ => [.doctype true]
    | .data => l.textTokens
    | .plain => l.textTokens
    | .raw _ => l.textTokens
    | .coverStart _ => l.textTokens
    | .nestedStart _ => l.textTokens
    | .nestedLess => l.textTokens
    | .nestedEnd _ => l.textTokens
    | _ => []
  last ++ [.finish]

end Lexer

/-- Line ends as one line feed each, and the mark of the byte order dropped. -/
def normalizeLines : List Char → List Char
  | '\r' :: '\n' :: cs => '\n' :: normalizeLines cs
  | '\r' :: cs => '\n' :: normalizeLines cs
  | c :: cs => c :: normalizeLines cs
  | [] => []

/-- The characters of a page as they are read. -/
def pageChars (s : String) : List Char :=
  let cs := match s.toList with
    | '\uFEFF' :: cs => cs
    | cs => cs
  normalizeLines cs

end Scorebook.Markup
