set_option autoImplicit false

/-!
# The platform

The names of the platform: what it is called, how it links libraries, and how it names their files.
-/

namespace AgentRelay.Platform

/-- The name of the platform. -/
def name : String := "linux"

/-- The facility that links libraries into a running process. -/
def backend : String := "dlopen"

/-- What the name of a library's file begins with. -/
def libraryPrefix : String := "lib"

/-- The extension of a library's file. -/
def libraryExtension : String := "so"

/-- The name of the file of the library that is called `library`. -/
def libraryFileName (library : String) : String := libraryPrefix ++ library ++ "." ++ libraryExtension

end AgentRelay.Platform
