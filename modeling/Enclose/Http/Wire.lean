import Enclose.Http.Request
import Enclose.Http.Response

/-!
Requests and responses as they stand on a connection.
-/

namespace Enclose.Http

def isBlank (c : Char) : Bool := c == ' ' || c == '\t'

def withoutLineEnd (line : String) : List Char :=
  (line.toList.reverse.dropWhile fun c => c == '\n' || c == '\r').reverse

def headerOfLine (line : List Char) : String × List UInt8 :=
  let value := ((line.dropWhile (· ≠ ':')).drop 1).dropWhile isBlank
  let value := (value.reverse.dropWhile isBlank).reverse
  (String.ofList (line.takeWhile (· ≠ ':')), Utf8.encode value)

def Request.ofLines (first : String) (rest : List String) : Except Request.Fault Request :=
  let line := withoutLineEnd first
  let method := line.takeWhile (· ≠ ' ')
  let target := ((line.dropWhile (· ≠ ' ')).drop 1).takeWhile (· ≠ ' ')
  let headers := rest.map fun line => headerOfLine (withoutLineEnd line)
  Request.of (String.ofList method) (String.ofList target) headers

def Request.bodyLength (r : Request) : Nat :=
  match Header.first? r.headers "content-length" with
  | some digits => ((String.ofList (Utf8.decode digits)).toNat?).getD 0
  | none => 0

def Header.line (h : Header) : List UInt8 :=
  Response.bytes (h.name ++ ": ") ++ h.value ++ Response.bytes "\r\n"

def Response.render (r : Response) : List UInt8 :=
  let first := "HTTP/1.1 " ++ toString r.status.code ++ " " ++ r.status.reason ++ "\r\n"
  Response.bytes first ++ r.headers.flatMap Header.line ++ Response.bytes "\r\n" ++ r.body

end Enclose.Http
