import DocComment.Comment.Unwrap

/-! The tags of a comment in the order of the source. A tag begins with an `@`
that is the first visible character of its line and is followed by its title;
text before the first tag counts as a description. -/

namespace DocComment

/-- A tag as its author wrote it: the title and what follows it, untrimmed. -/
structure WrittenTag where
  title : String
  body : Option String
  deriving DecidableEq, Repr

namespace Comment

/-- The mark that separates tags. -/
def tagMark : List Char := ['\\', '@']

/-- Puts the tag mark in place of every `@` that begins a tag. `fresh` tells that
the line has shown nothing but white space so far. -/
def markTags (fresh : Bool) : List Char → List Char
  | [] => []
  | '@' :: c :: rest =>
    if fresh && !Text.isBlank c then tagMark ++ c :: markTags false rest
    else '@' :: markTags false (c :: rest)
  | c :: rest => c :: markTags (c == '\n' || (fresh && Text.isBlank c)) rest

/-- The pieces between tag marks. -/
def splitMarks : List Char → List (List Char)
  | [] => [[]]
  | '\\' :: '@' :: rest => [] :: splitMarks rest
  | c :: rest =>
    match splitMarks rest with
    | [] => [[c]]
    | piece :: more => (c :: piece) :: more

/-- A piece is a tag when it begins with a title. -/
def tag? (piece : List Char) : Option WrittenTag :=
  let (title, body) := Text.cutWord piece
  if title.isEmpty then none
  else some ⟨String.ofList title, if body.isEmpty then none else some (String.ofList body)⟩

def tags (text : String) : List WrittenTag :=
  (splitMarks (markTags true text.toList)).filterMap tag?

def isClassType (codeType : Option String) : Bool :=
  codeType == some "ClassDeclaration" || codeType == some "ClassExpression"

/-- Gives text that does not begin with a tag a description tag, or a class
description when the comment belongs to a class. -/
def withDescription (text : String) (codeType : Option String) : String :=
  match Text.trimLeft text.toList with
  | [] => text
  | '@' :: _ => text
  | _ => (if isClassType codeType then "@classdesc " else "@description ") ++ text

def parse (source : Option String) (codeType : Option String) : List WrittenTag :=
  tags (withDescription (unwrap source) codeType)

end Comment

end DocComment
