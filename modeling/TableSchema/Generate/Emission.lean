import TableSchema.Generate.CppEmission
import TableSchema.Generate.RustEmission

/-!
# Generated code

The code of a schema in a language, for a reader whose namespace it goes into. Nothing is left out
and nothing is verified here.
-/

namespace TableSchema.Generate

def emission (language : Language) (schema : Schema) (reader : String) : Emission :=
  match language with
  | .cpp => Cpp.emission schema reader
  | .rust => Rust.emission schema reader

end TableSchema.Generate
