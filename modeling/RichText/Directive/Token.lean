import RichText.Characters

namespace RichText.Directive

/-- Splits the arguments of a directive at ASCII blanks outside quotation marks. `token` is the
token begun so far, last character first. A pair of marks begins one even if nothing stands between
them. Between marks a backslash before a mark gives the mark, and before anything else stays. -/
def tokensFrom (token : Option (List Char)) (quoted : Bool) : List Char → List (List Char)
  | [] => (token.map List.reverse).toList
  | '\\' :: c :: cs =>
    let begun := token.getD []
    if quoted then tokensFrom (some (if c = '"' then '"' :: begun else c :: '\\' :: begun)) true cs
    else tokensFrom (some ('\\' :: begun)) false (c :: cs)
  | c :: cs =>
    let begun := token.getD []
    if isAsciiBlank c && !quoted then (token.map List.reverse).toList ++ tokensFrom none false cs
    else if c = '"' then tokensFrom (some begun) (!quoted) cs
    else if c = '\\' && quoted then tokensFrom (some begun) true cs
    else tokensFrom (some (c :: begun)) quoted cs
termination_by cs => cs.length

def tokens (cs : List Char) : List (List Char) := tokensFrom none false cs

/-- Reads the escapes of a break text. An escaped character other than `n` and `t` is itself. -/
def unescape : List Char → List Char
  | [] => []
  | ['\\'] => ['\\']
  | '\\' :: c :: cs =>
    (if c = 'n' then '\n' else if c = 't' then '\t' else c) :: unescape cs
  | c :: cs => c :: unescape cs

end RichText.Directive
