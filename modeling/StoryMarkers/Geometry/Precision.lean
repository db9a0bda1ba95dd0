set_option autoImplicit false

namespace StoryMarkers.Precision

open Float.Model (Format UnpackedFloat)

/-- The nearest number of a format, of two that are equally near the even one. Zero and what is not
finite are the same in all formats. -/
def nearest (format : Format) : UnpackedFloat → UnpackedFloat
  | .finite sign significand exponent _ => .round format sign significand exponent
  | other => other

def single (x : Float) : Float32 := ⟨.pack (nearest .binary32 x.toModel.unpack)⟩

def double (x : Float32) : Float := ⟨.pack (nearest .binary64 x.toModel.unpack)⟩

end StoryMarkers.Precision
