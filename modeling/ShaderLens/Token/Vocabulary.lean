import ShaderLens.Token.Basic

/-!
# Vocabulary

The reserved words, the names of types and the names of built-in functions and variables of the
OpenGL shading language. A word that is in no list is an identifier of the shader's own.
-/

namespace ShaderLens.Vocabulary

/-- Control flow, qualifiers and precisions. -/
def keywords : List Text :=
  ["if", "else", "for", "while", "do", "switch", "case", "default", "break", "continue",
    "return", "discard", "const", "attribute", "uniform", "varying", "buffer", "shared",
    "coherent", "volatile", "restrict", "readonly", "writeonly", "layout", "centroid", "flat",
    "smooth", "noperspective", "patch", "sample", "in", "out", "inout", "invariant", "precise",
    "highp", "mediump", "lowp", "precision"].map
    String.toList

/-- Scalars, vectors, matrices and samplers. -/
def types : List Text :=
  ["void", "bool", "int", "uint", "float", "double", "vec2", "vec3", "vec4", "bvec2", "bvec3",
    "bvec4", "ivec2", "ivec3", "ivec4", "uvec2", "uvec3", "uvec4", "mat2", "mat3", "mat4",
    "mat2x2", "mat2x3", "mat2x4", "mat3x2", "mat3x3", "mat3x4", "mat4x2", "mat4x3", "mat4x4",
    "sampler2D", "isampler2D", "usampler2D", "sampler3D", "isampler3D", "usampler3D",
    "samplerCube", "isamplerCube", "usamplerCube", "sampler2DShadow", "samplerCubeShadow",
    "sampler2DArray", "isampler2DArray", "usampler2DArray", "sampler2DArrayShadow",
    "samplerBuffer", "isamplerBuffer", "usamplerBuffer", "sampler2DMS", "isampler2DMS",
    "usampler2DMS", "sampler2DMSArray", "isampler2DMSArray", "usampler2DMSArray"].map
    String.toList

/-- Functions of the language and the variables that begin with `gl_`. -/
def builtins : List Text :=
  ["radians", "degrees", "sin", "cos", "tan", "asin", "acos", "atan", "sinh", "cosh", "tanh",
    "asinh", "acosh", "atanh", "pow", "exp", "log", "exp2", "log2", "sqrt", "inversesqrt", "abs",
    "sign", "floor", "trunc", "round", "roundEven", "ceil", "fract", "mod", "modf", "min", "max",
    "clamp", "mix", "step", "smoothstep", "length", "distance", "dot", "cross", "normalize",
    "faceforward", "reflect", "refract", "matrixCompMult", "outerProduct", "transpose",
    "determinant", "inverse", "lessThan", "lessThanEqual", "greaterThan", "greaterThanEqual",
    "equal", "notEqual", "any", "all", "not", "texture", "textureLod", "textureProj",
    "textureLodProj", "textureGrad", "textureSize", "dFdx", "dFdy", "fwidth", "gl_Position",
    "gl_FragCoord", "gl_FragColor", "gl_FragData", "gl_PointCoord", "gl_PointSize", "gl_VertexID",
    "gl_InstanceID", "gl_FrontFacing", "gl_DepthRange"].map
    String.toList

/-- The kind of a word: the first list that holds the whole word decides. -/
def kindOf (word : Text) : TokenKind :=
  if word ∈ keywords then .keyword
  else if word ∈ types then .type
  else if word ∈ builtins then .builtin
  else .identifier

end ShaderLens.Vocabulary
