import CompileSession.Memory
import CompileSession.Text.Column

/-!
# Declarations

Pieces of C code with their prototypes, the symbols that they export, and the slots through which
they call back into the host.
-/

namespace CompileSession

/-- A piece of C code. -/
structure Declaration where
  /-- The definition. -/
  code : String := ""
  /-- The prototype. -/
  forward : String := ""
  /-- The names that the piece exports. -/
  symbols : List String := []
  /-- Slots for pointers to functions of the host, with what goes into each. -/
  hostFunctions : List (String × Address) := []
deriving DecidableEq, Repr

namespace Declaration

/-- A function with named parameters, which is exported. -/
def function (resultType name : String) (params : List (String × String)) (body : String) :
    Declaration :=
  let params := Text.joinWith ", " (params.map fun param => param.1 ++ " " ++ param.2)
  let header := resultType ++ " " ++ name ++ "(" ++ params ++ ")"
  { code := header ++ "\n\x7b\n" ++ body ++ "\n\x7d\n"
    forward := header ++ ";"
    symbols := [name] }

/-- A slot for a pointer to a function of the host; parameters have types only. -/
def callable (resultType name : String) (params : List String) (host : Address) : Declaration :=
  { forward := resultType ++ " (*" ++ name ++ ")(" ++ Text.joinWith ", " params ++ ") = 0;"
    hostFunctions := [(name, host)] }

def basicIncludes : Declaration :=
  { code := Text.joinLines
      ["#include <stddef.h>", "#include <stdint.h>", "#include <stdbool.h>"] }

def basicTypes : Declaration :=
  { code := Text.joinLines [
      "typedef int8_t int8;",
      "typedef int16_t int16;",
      "typedef int32_t int32;",
      "typedef int64_t int64;",
      "typedef uint8_t uint8;",
      "typedef uint16_t uint16;",
      "typedef uint32_t uint32;",
      "typedef uint64_t uint64;",
      "typedef void* Object;",
      "typedef char* CString;",
      "typedef wchar_t* WCString;",
      "typedef unsigned char byte;",
      "typedef unsigned char uchar;",
      "typedef unsigned short ushort;",
      "typedef unsigned int uint;",
      "typedef unsigned long ulong;",
      "typedef long long longlong;",
      "typedef unsigned long long ulonglong;"] }

end Declaration

end CompileSession
