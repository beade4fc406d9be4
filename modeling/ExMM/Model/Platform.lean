import Mathlib.Data.Nat.Notation

namespace ExMM

abbrev ControllerPtr := Nat
abbrev IoSpacePtr := Nat
abbrev ThreadId := Nat

inductive HookTypes
  | none
  | read
  | write
  | readWrite
  deriving DecidableEq, Repr

def HookTypes.code : HookTypes → Nat
  | .none => 0
  | .read => 1
  | .write => 2
  | .readWrite => 3

def HookTypes.and (lhs rhs : HookTypes) : Bool := lhs.code &&& rhs.code != 0

inductive AccessKind
  | load
  | store
  deriving DecidableEq, Repr

/-- The protection classes both kernels know: `0`/`PAGE_NOACCESS`, `PROT_READ`/`PAGE_READONLY` and
    `PROT_READ | PROT_WRITE`/`PAGE_READWRITE`. -/
inductive Protection
  | noAccess
  | readOnly
  | readWrite
  deriving DecidableEq, Repr

def Protection.allows : Protection → AccessKind → Bool
  | .noAccess, _ => false
  | .readOnly, kind => kind == .load
  | .readWrite, _ => true

def initialProtection (hookTypes : HookTypes) : Protection :=
  if hookTypes.and .read then .noAccess else if hookTypes.and .write then .readOnly else .readWrite

inductive Process
  | running
  /-- The access violation signal has been reset to `SIG_DFL`. -/
  | defaultAction
  | killed
  deriving DecidableEq, Repr

/-- What one platform's `IoSpace` does to its public area, and what its handlers leave of the process on
    a fault or a trap that is not theirs. `Area` is the part of the object and of the kernel's page
    table that changes; `none` is a thrown exception. -/
structure Platform (Area : Type) where
  initializeArea : HookTypes → Area
  protection : Area → Protection
  unprotect : Area → Option Area
  restoreProtection : Area → Option Area
  unmanagedFault : Process
  foreignTrap : Process

inductive ProtectionCall
  | unprotect
  | restoreProtection
  deriving DecidableEq, Repr

def Platform.call {Area : Type} (platform : Platform Area) (area : Area) : ProtectionCall → Option Area
  | .unprotect => platform.unprotect area
  | .restoreProtection => platform.restoreProtection area

namespace Posix

structure IoSpace where
  protection : Protection
  oldProtection : Protection
  deriving DecidableEq, Repr

def publicFlags : HookTypes → Protection
  | .none => .readWrite
  | .write => .readOnly
  | .read => .noAccess
  | .readWrite => .noAccess

theorem publicFlags_eq (hookTypes : HookTypes) : publicFlags hookTypes = initialProtection hookTypes := by
  cases hookTypes <;> rfl

def IoSpace.initializeArea (hookTypes : HookTypes) : IoSpace :=
  { protection := publicFlags hookTypes, oldProtection := publicFlags hookTypes }

def IoSpace.unprotect (space : IoSpace) : IoSpace := { space with protection := .readWrite }

def IoSpace.restoreProtection (space : IoSpace) : IoSpace :=
  { space with protection := space.oldProtection }

def platform : Platform IoSpace where
  initializeArea := IoSpace.initializeArea
  protection := IoSpace.protection
  unprotect := fun space => some space.unprotect
  restoreProtection := fun space => some space.restoreProtection
  unmanagedFault := .defaultAction
  foreignTrap := .running

end Posix

namespace Windows

/-- `oldProtection` is `none` for the zero the constructor stores: `Initialize` writes the previous
    protection to a local variable of the same name, so the member keeps that zero. -/
structure IoSpace where
  protection : Protection
  oldProtection : Option Protection
  deriving DecidableEq, Repr

def virtualProtect (space : IoSpace) (new : Protection) : IoSpace × Protection :=
  ({ space with protection := new }, space.protection)

def newProtection : HookTypes → Protection
  | .read => .noAccess
  | .write => .readOnly
  | .readWrite => .noAccess
  | _ => .readWrite

theorem newProtection_eq (hookTypes : HookTypes) :
    newProtection hookTypes = initialProtection hookTypes := by
  cases hookTypes <;> rfl

def IoSpace.initializeArea (hookTypes : HookTypes) : IoSpace :=
  (virtualProtect { protection := .readWrite, oldProtection := none } (newProtection hookTypes)).1

def IoSpace.unprotect (space : IoSpace) : IoSpace :=
  let (changed, previous) := virtualProtect space .readWrite
  { changed with oldProtection := some previous }

/-- Restoring the zero is refused by `VirtualProtect` and throws. -/
def IoSpace.restoreProtection (space : IoSpace) : Option IoSpace :=
  space.oldProtection.map fun old => (virtualProtect space old).1

/-- With no earlier filter both unmanaged paths end in `EXCEPTION_CONTINUE_SEARCH`. -/
def platform : Platform IoSpace where
  initializeArea := IoSpace.initializeArea
  protection := IoSpace.protection
  unprotect := fun space => some space.unprotect
  restoreProtection := IoSpace.restoreProtection
  unmanagedFault := .killed
  foreignTrap := .killed

end Windows

end ExMM
