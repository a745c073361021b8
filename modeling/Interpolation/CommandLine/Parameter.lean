import Interpolation.Text.Identifier
import Interpolation.Text.Margin
import Interpolation.Text.Quoted
import Interpolation.Text.Search
import Interpolation.Text.Cased

/-!
# Parameters

A command takes options and arguments.  An option has flags, and may have opposites, which are flags
that turn it off; it may take a value.  An argument has no flag and is given by its place.

An option is known by a key.  It is declared by its flags, with an opposite behind a slash, and
maybe by its key, which is an identifier; else the flag with the most marks gives the key.
Declarations that give no key, two keys or no flag declare no option.
-/

set_option autoImplicit false

namespace Interpolation

namespace CommandLine

/-! ## Flags -/

/-- The dashes, or other marks, before the name of a flag. -/
def mark : Characters → Characters
  | [] => []
  | [c] => if Characters.isLetterOrNumber c then [] else [c]
  | c :: d :: _ => if Characters.isLetterOrNumber c then [] else if d = c then [c, d] else [c]

/-- A name with underscores for its dashes, in small letters. -/
def keyOf (name : Characters) : Characters :=
  Characters.smalls (name.map fun c => if c = '-' then '_' else c)

/-- The key that a flag gives. -/
def keyOfFlag (flag : Characters) : Characters :=
  keyOf (flag.drop (mark flag).length)

/-! ## Declarations -/

/-- Why declarations declare no option. -/
inductive DeclarationProblem
  /-- A key is declared, and a second one after it. -/
  | keyTwice (key : Characters)
  /-- A flag is its own opposite. -/
  | ownOpposite (declaration : Characters)
  | noKey (declarations : List Characters)
  /-- A key is declared, but no flag. -/
  | noFlag (key : Characters)
deriving DecidableEq

/-- The wording of a problem with declarations. -/
def DeclarationProblem.message : DeclarationProblem → Characters
  | keyTwice key => "Name '".toList ++ key ++ "' defined twice".toList
  | ownOpposite declaration =>
    "Boolean option ".toList ++ declaration.quoted ++
      " cannot use the same flag for true/false.".toList
  | noKey declarations =>
    "Could not determine name for option with declarations [".toList ++
      (", ".toList).intercalate (declarations.map Characters.quoted) ++ [']']
  | noFlag key =>
    "No options defined but a name was passed (".toList ++ key ++
      "). Did you mean to declare an argument instead? Did you mean to pass '--".toList ++ key ++
      "'?".toList

/-- What declarations have declared. -/
structure Declared where
  key : Option Characters
  flags : List Characters
  opposites : List Characters

/-- The declared flags with one more, unless it is empty. -/
def Declared.addFlag (d : Declared) (flag : Characters) : Declared :=
  if flag = [] then d else { d with flags := d.flags ++ [flag] }

/-- The declared opposites with one more, unless it is empty. -/
def Declared.addOpposite (d : Declared) (flag : Characters) : Declared :=
  if flag = [] then d else { d with opposites := d.opposites ++ [flag] }

/-- What declarations have declared together with one more: a key, or a flag and maybe its
opposite. -/
def Declared.add (d : Declared) (declaration : Characters) : Except DeclarationProblem Declared :=
  if Characters.isIdentifier declaration then
    match d.key with
    | some key => .error (.keyTwice key)
    | none => .ok { d with key := some declaration }
  else
    match Text.cutAt? (if declaration.head? = some '/' then [';'] else ['/']) declaration with
    | none => .ok { d with flags := d.flags ++ [declaration] }
    | some (flag, opposite) =>
      let flag := Characters.dropEndWhile Characters.isSpacing flag
      let opposite := opposite.dropWhile Characters.isSpacing
      if flag = opposite then .error (.ownOpposite declaration)
      else .ok ((d.addFlag flag).addOpposite opposite)

/-- The first of several flags with the most marks. -/
def mostMarked? : List Characters → Option Characters
  | [] => none
  | flag :: rest =>
    match mostMarked? rest with
    | none => some flag
    | some other => if (mark other).length ≤ (mark flag).length then some flag else some other

/-- The key that has been declared, or else the one that the flags give. -/
def Declared.key? (d : Declared) : Option Characters :=
  match d.key with
  | some key => some key
  | none => ((mostMarked? d.flags).map keyOfFlag).filter Characters.isIdentifier

/-! ## Parameters -/

/-- A parameter of a command. -/
inductive Parameter
  | option (key : Characters) (flags opposites : List Characters) (takesValue : Bool)
    (help : Characters)
  | argument (key : Characters)
deriving DecidableEq

namespace Parameter

/-- The key of a parameter. -/
def key : Parameter → Characters
  | option key _ _ _ _ => key
  | argument key => key

/-- The flags of a parameter, those that turn it off last. -/
def allFlags : Parameter → List Characters
  | option _ flags opposites _ _ => flags ++ opposites
  | argument _ => []

/-- An option without a value, from its declarations. -/
def ofDeclarations (declarations : List Characters) (help : Characters) :
    Except DeclarationProblem Parameter := do
  let declared ← declarations.foldlM Declared.add ⟨none, [], []⟩
  match declared.key? with
  | none => throw (.noKey declarations)
  | some key =>
    if declared.flags = [] ∧ declared.opposites = [] then throw (.noFlag key)
    return option key declared.flags declared.opposites false help.withoutMargin

/-- An argument of a name. -/
def ofName (name : Characters) : Parameter :=
  argument (keyOf name)

end Parameter

end CommandLine

end Interpolation
