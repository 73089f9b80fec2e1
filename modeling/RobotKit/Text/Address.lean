import RobotKit.Text.Blank
import RobotKit.Text.Digit
import RobotKit.Text.Pattern

/-!
# Network addresses

The form of the addresses from which packages can be fetched: a scheme, perhaps a user, a host,
and perhaps a port, a path, a query and a fragment.
-/

namespace RobotKit.Text.Address

open Pattern

/-- A decimal digit of any script. -/
def digit : Pattern := .one fun c => (digitValue? c).isSome

/-- An ASCII letter or any character from the inverted exclamation mark on. -/
def isLetter (c : Char) : Bool := c.isAlpha || 0xA1 ≤ c.toNat

def isHostCharacter (c : Char) : Bool := isLetter c || c.isDigit

/-- Signs that may stand in users, passwords and paths. -/
def isSign (c : Char) : Bool := "-._~%!$&'()*+,;=:".toList.contains c

/-- A digit in base 16. -/
def hexDigit : Pattern :=
  .one fun c => c.isDigit || ('a' ≤ c.toLower && c.toLower ≤ 'f')

/-- A single character; case is of no matter. -/
def sign (text : String) : Pattern := word text

/-- A digit between two ASCII digits. -/
def between (low high : Char) : Pattern := .one fun c => low ≤ c && c ≤ high

def scheme : Pattern :=
  all [any [word "http", word "https", word "ftp"], sign "://"]

/-- The user, perhaps with a password. -/
def user : Pattern :=
  let isUser := fun (c : Char) => c.isAlphanum || isSign c || (0xA1 ≤ c.toNat && c.toNat ≤ 0xFFFF)
  let isPassword := fun (c : Char) => c.isAlphanum || isSign c
  all [oneOrMore (.one isUser), maybe (all [sign ":", .many (.one isPassword)]), sign "@"]

/-- One of the two middle numbers of an address of four numbers. -/
def middleNumber : Pattern :=
  all [sign ".", any [all [maybe (sign "1"), times 1 1 digit],
    all [sign "2", between '0' '4', digit], all [sign "25", between '0' '5']]]

/-- The last number of an address of four numbers. -/
def lastNumber : Pattern :=
  all [sign ".", any [sign "0", all [between '1' '9', maybe digit], all [sign "1", digit, digit],
    all [sign "2", between '0' '4', digit], all [sign "25", between '0' '5']]]

/-- An address of four numbers in a private network. -/
def privateNumbers : Pattern :=
  any [all [any [sign "10", sign "127"], middleNumber, middleNumber, lastNumber],
    all [any [sign "169.254", sign "192.168"], middleNumber, lastNumber],
    all [sign "172.", any [all [sign "1", between '6' '9'], all [sign "2", digit],
      all [sign "3", between '0' '1']], middleNumber, lastNumber]]

/-- An address of four numbers in a public network. -/
def publicNumbers : Pattern :=
  all [any [all [between '1' '9', maybe digit], all [sign "1", digit, digit],
    all [sign "2", between '0' '1', digit], all [sign "22", between '0' '3']],
    middleNumber, middleNumber, lastNumber]

/-- A group of an address of eight groups. -/
def group : Pattern := times 1 3 hexDigit

/-- A group and the colon after it. -/
def groupBefore : Pattern := all [group, sign ":"]

def groupAfter : Pattern := all [sign ":", group]

/-- A number below 256 inside an address of groups. -/
def smallNumber : Pattern :=
  let ten := between '0' '9'
  .either (all [sign "25", between '0' '5'])
    (all [maybe (.either (all [sign "2", between '0' '4']) (all [maybe (sign "1"), ten])), ten])

/-- Four numbers at the end of an address of groups. -/
def fourNumbers : Pattern := all [times 3 0 (all [smallNumber, sign "."]), smallNumber]

/-- An address of groups in brackets; two colons stand for the groups that are left out. -/
def groups : Pattern :=
  let alnum := Pattern.one Char.isAlphanum
  all [sign "[", any [
    all [times 7 0 groupBefore, group],
    all [times 1 6 groupBefore, sign ":"],
    all [times 1 5 groupBefore, sign ":", group],
    all [times 1 4 groupBefore, times 1 1 groupAfter],
    all [times 1 3 groupBefore, times 1 2 groupAfter],
    all [times 1 2 groupBefore, times 1 3 groupAfter],
    all [times 1 1 groupBefore, times 1 4 groupAfter],
    all [groupBefore, times 1 5 groupAfter],
    all [sign ":", .either (times 1 6 groupAfter) (sign ":")],
    all [word "fe80:", times 0 4 (all [sign ":", times 0 4 hexDigit]), sign "%", oneOrMore alnum],
    all [sign "::", maybe (all [word "ffff", maybe (all [sign ":", times 1 3 (sign "0")]), sign ":"]),
      fourNumbers],
    all [times 1 3 groupBefore, sign ":", fourNumbers]], sign "]"]

/-- One name of a host name: no hyphen at its ends, and no two together but in a mark at the
start of a coded part. -/
def label : Pattern :=
  let character := Pattern.one isHostCharacter
  all [.many (.either (word "xn--") (all [character, maybe (sign "-")])), oneOrMore character]

/-- A host name of at least two names. -/
def hostName : Pattern :=
  let last := Pattern.either
    (all [word "xn--", times 2 0 (.one isHostCharacter), .many (.one isHostCharacter)])
    (all [times 2 0 (.one isLetter), .many (.one isLetter)])
  all [label, .many (all [sign ".", label]), sign ".", last]

/-- What may follow the host. -/
def resource : Pattern :=
  let isPath := fun (c : Char) => isHostCharacter c || isSign c || c = '@' || c = '/'
  let visible := Pattern.one fun c => !isBlank c
  all [maybe (all [sign ":", times 2 3 digit]), maybe (all [sign "/", .many (.one isPath)]),
    maybe (all [sign "?", .many visible]), maybe (all [sign "#", .many visible])]

def address : Pattern :=
  all [scheme, maybe user,
    any [privateNumbers, word "localhost", publicNumbers, groups, hostName], resource,
    maybe (.one (· = '\n'))]

end Address

def isAddress (text : String) : Bool := Address.address.matches? text

end RobotKit.Text
