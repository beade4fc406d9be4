import Mathlib.Data.Finset.Basic
import Mathlib.Data.Finset.Option
import Mathlib.Logic.Function.Basic
import ExMM.Model.Registry

namespace ExMM

/-- What the heap and the kernel hand out to an `IoSpace`: the object itself, a descriptor or handle, a
    mapped area, the name of a temporary file. -/
inductive Resource
  | object (ioSpace : IoSpacePtr)
  | file (file : Nat)
  | area (address : Nat)
  | name (name : Nat)
  deriving DecidableEq, Repr

def held (resource : Nat → Resource) (value : Option Nat) : Finset Resource := (value.map resource).toFinset

/-- `Initialize` may throw with some of the fields already set; the object stays on the heap then. -/
structure Initialized (Object : Type) where
  object : Object
  live : Finset Resource
  exception : Option String

/-- The constructor, `Initialize`, the destructor and the getters of one platform's `IoSpace`. `Answers` is
    what the operating system answers to the calls of one `Initialize`. -/
structure Allocator (Object Answers : Type) where
  create : Nat → HookTypes → Object
  initializeObject : Object → Answers → Finset Resource → Initialized Object
  destroy : Object → Finset Resource → Finset Resource
  getPublicArea : Object → Option Nat
  getPrivateArea : Object → Option Nat

namespace Posix

structure Object where
  hookTypes : HookTypes
  size : Nat
  file : Option Nat
  privateArea : Option Nat
  publicArea : Option Nat
  oldProtection : Protection
  deriving DecidableEq, Repr

/-- A failed call is `none` or false; `mkstemp` answers with the descriptor and the name it has made up. -/
structure Answers where
  mkstemp : Option (Nat × Nat)
  ftruncate : Bool
  mmapPrivate : Option Nat
  mmapPublic : Option Nat
  strerror : String
  deriving DecidableEq, Repr

namespace Object

def create (size : Nat) (hookTypes : HookTypes) : Object :=
  { hookTypes, size, file := none, privateArea := none, publicArea := none, oldProtection := .noAccess }

def initializeObject (object : Object) (answers : Answers) (live : Finset Resource) : Initialized Object :=
  match answers.mkstemp with
  | none => { object, live, exception := some "Cannot create file for mapping" }
  | some (file, buffer) =>
    let object := { object with file := some file }
    let live := live ∪ {.file file, .name buffer}
    if answers.ftruncate = false then
      { object, live, exception := some "Cannot set mapping file size" }
    else
      -- `unlink`
      let live := live.erase (.name buffer)
      match answers.mmapPrivate with
      | none => { object, live, exception := some answers.strerror }
      | some privateArea =>
        let object := { object with privateArea := some privateArea }
        let live := live ∪ {.area privateArea}
        match answers.mmapPublic with
        | none => { object, live, exception := some answers.strerror }
        | some publicArea =>
          { object :=
              { object with publicArea := some publicArea, oldProtection := publicFlags object.hookTypes }
            live := live ∪ {.area publicArea}
            exception := none }

def destroy (object : Object) (live : Finset Resource) : Finset Resource :=
  ((live \ held .area object.publicArea) \ held .area object.privateArea) \ held .file object.file

end Object

def allocator : Allocator Object Answers where
  create := Object.create
  initializeObject := Object.initializeObject
  destroy := Object.destroy
  getPublicArea := Object.publicArea
  getPrivateArea := Object.privateArea

end Posix

namespace Windows

inductive Handle
  | invalid
  | null
  | valid (handle : Nat)
  deriving DecidableEq, Repr

def Handle.value : Handle → Option Nat
  | .valid handle => some handle
  | _ => none

structure Object where
  size : Nat
  hookTypes : HookTypes
  hMapping : Handle
  publicArea : Option Nat
  privateArea : Option Nat
  oldProtection : Option Protection
  deriving DecidableEq, Repr

structure Answers where
  createFileMapping : Option Nat
  mapPublic : Option Nat
  mapPrivate : Option Nat
  virtualProtect : Bool
  deriving DecidableEq, Repr

/-- `CreateFileMapping` returns null where it fails, not `INVALID_HANDLE_VALUE`. -/
def createFileMapping (answer : Option Nat) : Handle :=
  match answer with
  | some handle => .valid handle
  | none => .null

def mapViewOfFile (hMapping : Handle) (answer : Option Nat) : Option Nat := hMapping.value.bind fun _ => answer

namespace Object

def create (size : Nat) (hookTypes : HookTypes) : Object :=
  { size, hookTypes, hMapping := .invalid, publicArea := none, privateArea := none, oldProtection := none }

def initializeObject (object : Object) (answers : Answers) (live : Finset Resource) : Initialized Object :=
  let hMapping := createFileMapping answers.createFileMapping
  let object := { object with hMapping }
  let live := live ∪ held .file hMapping.value
  if hMapping = .invalid then
    { object, live, exception := some "Cannot create file mapping" }
  else
    let publicArea := mapViewOfFile hMapping answers.mapPublic
    let privateArea := mapViewOfFile hMapping answers.mapPrivate
    let object := { object with publicArea, privateArea }
    let live := live ∪ held .area publicArea ∪ held .area privateArea
    if publicArea = none ∨ privateArea = none then
      { object, live, exception := some "Cannot map memory area" }
    else if answers.virtualProtect = false then
      { object, live, exception := some "Cannot set memory area protection" }
    else { object, live, exception := none }

def destroy (object : Object) (live : Finset Resource) : Finset Resource :=
  ((live \ held .area object.publicArea) \ held .area object.privateArea) \ held .file object.hMapping.value

end Object

def allocator : Allocator Object Answers where
  create := Object.create
  initializeObject := Object.initializeObject
  destroy := Object.destroy
  getPublicArea := Object.publicArea
  getPrivateArea := Object.privateArea

end Windows

inductive Allocating (Answers : Type)
  | construct (controller : ControllerPtr) (size : Nat) (hookTypes : HookTypes) (ioSpace : IoSpacePtr)
      (answers : Answers)
  | destroy (controller : ControllerPtr)
  deriving DecidableEq, Repr

structure Holdings (Object : Type) where
  registry : Registry
  objects : IoSpacePtr → Option Object
  live : Finset Resource

namespace Holdings

variable {Object Answers : Type}

def start : Holdings Object := { registry := .empty, objects := fun _ => none, live := ∅ }

/-- `AllocateIoSpace` inside `Add`. An exception passes through both, and through the constructor of the
    controller, without a handler: neither `Remove` nor `delete` follows. -/
def construct (allocator : Allocator Object Answers) (s : Holdings Object) (controller : ControllerPtr)
    (size : Nat) (hookTypes : HookTypes) (ioSpace : IoSpacePtr) (answers : Answers) :
    Holdings Object × Option String :=
  let result := allocator.initializeObject (allocator.create size hookTypes) answers (insert (.object ioSpace) s.live)
  let objects := Function.update s.objects ioSpace (some result.object)
  match result.exception with
  | some text => ({ registry := s.registry.initPlatform, objects, live := result.live }, some text)
  | none =>
    let allocation : Allocation :=
      { ioSpace
        publicArea := (allocator.getPublicArea result.object).getD 0
        privateArea := (allocator.getPrivateArea result.object).getD 0 }
    ({ registry := (s.registry.add controller size hookTypes allocation).1, objects, live := result.live }, none)

def remove (allocator : Allocator Object Answers) (s : Holdings Object) (controller : ControllerPtr) :
    Holdings Object :=
  match s.registry.ioMap[controller]? with
  | none => s
  | some ioSpace =>
    let live := (s.objects ioSpace).elim s.live fun object => allocator.destroy object s.live
    { registry := s.registry.remove controller
      objects := Function.update s.objects ioSpace none
      live := live.erase (.object ioSpace) }

def apply (allocator : Allocator Object Answers) (s : Holdings Object) :
    Allocating Answers → Holdings Object
  | .construct controller size hookTypes ioSpace answers =>
    (s.construct allocator controller size hookTypes ioSpace answers).1
  | .destroy controller => s.remove allocator controller

def throws (allocator : Allocator Object Answers) (s : Holdings Object) : Allocating Answers → Bool
  | .construct controller size hookTypes ioSpace answers =>
    (s.construct allocator controller size hookTypes ioSpace answers).2.isSome
  | .destroy _ => false

def after (allocator : Allocator Object Answers) (events : List (Allocating Answers)) : Holdings Object :=
  events.foldl (apply allocator) start

end Holdings

end ExMM
