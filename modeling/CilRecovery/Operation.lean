import CilRecovery.Cil.Opcode

/-!
# Recoverable operations

The operations that a virtualizer replaces by virtual instructions and that the rule table can
recover.  Each is one opcode of the instruction set and shares its mnemonic.
-/

namespace CilRecovery

/-- An operation of the program as it was before virtualization. -/
inductive Operation where
  | add | add_ovf | add_ovf_un | and | bge | blt | call | cgt | ckfinite | clt | div | div_un
  | ldarg | ldarg_s | ldarga | ldarga_s | ldarg_0 | ldarg_1 | ldarg_2 | ldarg_3 | ldc_i4
  | ldc_i4_s | ldc_i4_0 | ldc_i4_1 | ldc_i4_2 | ldc_i4_3 | ldc_i4_4 | ldc_i4_5 | ldc_i4_6
  | ldc_i4_7 | ldc_i4_8 | ldc_i4_m1 | ldc_i8 | ldc_r4 | ldc_r8 | ldloc | ldloc_s | ldloc_0
  | ldloc_1 | ldloc_2 | ldloc_3 | ldnull | ldstr | or | rem | rem_un | ret | rethrow | shl | shr
  | shr_un | starg | starg_s | stloc | stloc_s | stloc_0 | stloc_1 | stloc_2 | stloc_3 | sub
  | sub_ovf | sub_ovf_un | throw | xor
deriving DecidableEq

namespace Operation

def opcode : Operation → Opcode
  | .add => .add
  | .add_ovf => .add_ovf
  | .add_ovf_un => .add_ovf_un
  | .and => .and
  | .bge => .bge
  | .blt => .blt
  | .call => .call
  | .cgt => .cgt
  | .ckfinite => .ckfinite
  | .clt => .clt
  | .div => .div
  | .div_un => .div_un
  | .ldarg => .ldarg
  | .ldarg_s => .ldarg_s
  | .ldarga => .ldarga
  | .ldarga_s => .ldarga_s
  | .ldarg_0 => .ldarg_0
  | .ldarg_1 => .ldarg_1
  | .ldarg_2 => .ldarg_2
  | .ldarg_3 => .ldarg_3
  | .ldc_i4 => .ldc_i4
  | .ldc_i4_s => .ldc_i4_s
  | .ldc_i4_0 => .ldc_i4_0
  | .ldc_i4_1 => .ldc_i4_1
  | .ldc_i4_2 => .ldc_i4_2
  | .ldc_i4_3 => .ldc_i4_3
  | .ldc_i4_4 => .ldc_i4_4
  | .ldc_i4_5 => .ldc_i4_5
  | .ldc_i4_6 => .ldc_i4_6
  | .ldc_i4_7 => .ldc_i4_7
  | .ldc_i4_8 => .ldc_i4_8
  | .ldc_i4_m1 => .ldc_i4_m1
  | .ldc_i8 => .ldc_i8
  | .ldc_r4 => .ldc_r4
  | .ldc_r8 => .ldc_r8
  | .ldloc => .ldloc
  | .ldloc_s => .ldloc_s
  | .ldloc_0 => .ldloc_0
  | .ldloc_1 => .ldloc_1
  | .ldloc_2 => .ldloc_2
  | .ldloc_3 => .ldloc_3
  | .ldnull => .ldnull
  | .ldstr => .ldstr
  | .or => .or
  | .rem => .rem
  | .rem_un => .rem_un
  | .ret => .ret
  | .rethrow => .rethrow
  | .shl => .shl
  | .shr => .shr
  | .shr_un => .shr_un
  | .starg => .starg
  | .starg_s => .starg_s
  | .stloc => .stloc
  | .stloc_s => .stloc_s
  | .stloc_0 => .stloc_0
  | .stloc_1 => .stloc_1
  | .stloc_2 => .stloc_2
  | .stloc_3 => .stloc_3
  | .sub => .sub
  | .sub_ovf => .sub_ovf
  | .sub_ovf_un => .sub_ovf_un
  | .throw => .throw
  | .xor => .xor

def all : List Operation :=
  [.add, .add_ovf, .add_ovf_un, .and, .bge, .blt, .call, .cgt, .ckfinite, .clt, .div, .div_un,
   .ldarg, .ldarg_s, .ldarga, .ldarga_s, .ldarg_0, .ldarg_1, .ldarg_2, .ldarg_3, .ldc_i4,
   .ldc_i4_s, .ldc_i4_0, .ldc_i4_1, .ldc_i4_2, .ldc_i4_3, .ldc_i4_4, .ldc_i4_5, .ldc_i4_6,
   .ldc_i4_7, .ldc_i4_8, .ldc_i4_m1, .ldc_i8, .ldc_r4, .ldc_r8, .ldloc, .ldloc_s, .ldloc_0,
   .ldloc_1, .ldloc_2, .ldloc_3, .ldnull, .ldstr, .or, .rem, .rem_un, .ret, .rethrow, .shl, .shr,
   .shr_un, .starg, .starg_s, .stloc, .stloc_s, .stloc_0, .stloc_1, .stloc_2, .stloc_3, .sub,
   .sub_ovf, .sub_ovf_un, .throw, .xor]

def index (o : Operation) : Nat := o.ctorIdx

def ofIndex? (i : Nat) : Option Operation := all[i]?

theorem ofIndex?_index (o : Operation) : ofIndex? o.index = some o := by
  cases o <;> rfl

theorem mem_all (o : Operation) : o ∈ all := List.mem_of_getElem? (ofIndex?_index o)

theorem nodup_all : all.Nodup := by decide +kernel

theorem opcode_injective {a b : Operation} (h : a.opcode = b.opcode) : a = b := by
  have key : ∀ o : Operation, all.find? (fun x => x.opcode = o.opcode) = some o := by
    intro o
    cases o <;> rfl
  have ha := key a
  rw [h, key b] at ha
  exact (Option.some.inj ha).symm

def mnemonic (o : Operation) : String := o.opcode.mnemonic

def name (o : Operation) : String := o.opcode.name

def ofMnemonic? (s : String) : Option Operation := all.find? fun o => o.mnemonic == s

end Operation

end CilRecovery
