import GoScaffold.Text.Basic

/-!
# Comments and literals

Inside a comment, a string, a raw string or a rune no character has a meaning
for the structure of the source, so the reader steps over each as a whole.  One
that is not terminated is no token; its first character is then an ordinary one.
-/

namespace GoScaffold.Source

def isLineBreak (c : Char) : Bool :=
  c == '\n' || c == '\r'

/-- The text through the first `*/`. -/
def throughCommentEnd? : Text → Option Text
  | [] => none
  | c :: rest =>
    if c == '*' && rest.head? == some '/' then some ['*', '/']
    else (throughCommentEnd? rest).map (c :: ·)

def throughBacktick? : Text → Option Text
  | [] => none
  | c :: rest => if c == '\x60' then some [c] else (throughBacktick? rest).map (c :: ·)

/-- The text through the first `quote` that no backslash escapes.  A line break before
it leaves the literal open, except behind a backslash. -/
def throughQuote? (quote : Char) : Text → Option Text
  | [] => none
  | c :: rest =>
    if c == quote then some [c]
    else if c == '\\' then
      match rest with
      | [] => none
      | escaped :: rest => (throughQuote? quote rest).map fun text => c :: escaped :: text
    else if isLineBreak c then none
    else (throughQuote? quote rest).map (c :: ·)

/-- The comment or literal at the front of the text.  A line comment ends before the
line break. -/
def token? : Text → Option Text
  | [] => none
  | c :: rest =>
    if c == '/' then
      match rest with
      | [] => none
      | d :: rest =>
        if d == '/' then some (c :: d :: rest.takeWhile fun e => !isLineBreak e)
        else if d == '*' then (throughCommentEnd? rest).map fun text => c :: d :: text
        else none
    else if c == '\x60' then (throughBacktick? rest).map (c :: ·)
    else if c == '"' || c == '\'' then (throughQuote? c rest).map (c :: ·)
    else none

end GoScaffold.Source
