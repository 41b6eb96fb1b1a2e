import Wdl.Assoc
import Wdl.Text.Blank

/-!
Variables in option values.

A dollar sign and a name, which may be in braces, stand for a variable of the environment, and a
tilde at the front for a home directory. Values are expanded again and again until that changes
nothing.
-/

namespace Wdl
namespace Config

/-- The variables of the environment. -/
abbrev Environment := List (String × String)

/-- The home directories of the accounts of a plain system. -/
def homes : List (String × String) :=
  [("root", "/root"), ("daemon", "/usr/sbin"), ("bin", "/bin"), ("sys", "/dev"), ("sync", "/bin"),
   ("games", "/usr/games"), ("man", "/var/cache/man"), ("mail", "/var/mail"),
   ("www-data", "/var/www"), ("backup", "/var/backups"), ("nobody", "/nonexistent")]

def isNameChar (c : Char) : Bool := c.isAlphanum || c == '_'

/-- The name of a variable at the front of a text, after the dollar sign, with the number of its
characters, braces included. -/
def variableName? (cs : List Char) : Option (String × Nat) :=
  match cs with
  | '\x7b' :: rest =>
    let name := rest.takeWhile (· != '\x7d')
    if name.length < rest.length then some (String.ofList name, name.length + 2) else none
  | cs =>
    let name := cs.takeWhile isNameChar
    if name.isEmpty then none else some (String.ofList name, name.length)

/-- Replaces every variable that has a value by it, once. Values are not searched for variables. -/
def expandVariables (env : Environment) : Nat → List Char → List Char
  | 0, cs => cs
  | _ + 1, [] => []
  | fuel + 1, '$' :: cs =>
    match variableName? cs with
    | some (name, length) =>
      match env.lookup name with
      | some v => v.toList ++ expandVariables env fuel (cs.drop length)
      | none => '$' :: cs.take length ++ expandVariables env fuel (cs.drop length)
    | none => '$' :: expandVariables env fuel cs
  | fuel + 1, c :: cs => c :: expandVariables env fuel cs

/-- Replaces a tilde at the front, with the name of an account after it or none, by a home
directory. -/
def expandHome (env : Environment) (cs : List Char) : List Char :=
  match cs with
  | '~' :: rest =>
    let account := String.ofList (rest.takeWhile (· != '/'))
    let path := rest.dropWhile (· != '/')
    let home := if account.isEmpty then some ((env.lookup "HOME").getD "/root")
      else homes.lookup account
    match home with
    | some h =>
      let full := (h.toList.reverse.dropWhile (· == '/')).reverse ++ path
      if full.isEmpty then ['/'] else full
    | none => cs
  | cs => cs

/-- Expands a value once. -/
def expandOnce (env : Environment) (s : String) : String :=
  let cs := s.toList
  String.ofList (expandHome env (expandVariables env (cs.length + 1) cs))

/-- Expands a value until nothing changes; nothing if it still changes after `fuel` rounds. -/
def expand? (env : Environment) : Nat → String → Option String
  | 0, _ => none
  | fuel + 1, s =>
    let t := expandOnce env s
    if t == s then some s else expand? env fuel t

end Config
end Wdl
