import Enclose.Script.Token
import Enclose.Script.Number

/-!
How tokens are named in complaints.
-/

namespace Enclose.Script

def Token.text : Token → String
  | word name => name
  | number raw => "numeric literal (" ++ Number.plainText (Number.ofRaw raw) ++ ", " ++ raw ++ ")"
  | bigint raw => "bigint literal (" ++ toString (Number.integerOfRaw raw) ++ ", " ++ raw ++ ")"
  | string lit => "string literal (" ++ lit.value ++ ", " ++ lit.raw ++ ")"
  | regex pattern flags => "regexp literal (" ++ pattern ++ ", " ++ flags ++ ")"
  | hashbang text => "#!" ++ text
  | openParen => "(" | closeParen => ")" | openBracket => "[" | closeBracket => "]"
  | openBrace => "\x7b" | closeBrace => "\x7d" | comma => "," | semicolon => ";" | colon => ":"
  | dot => "." | ellipsis => "..." | arrow => "=>" | question => "?" | backquote => "`"
  | hash => "#" | atSign => "@" | bang => "!" | tilde => "~"
  | update op => op.text
  | binary op => op.text
  | assign op => op.text

end Enclose.Script
