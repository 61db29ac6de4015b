import CilRecovery.Text.Camel

/-!
# CIL opcodes

The opcodes of the instruction set, two-byte opcodes and instruction modifiers included, in the
order in which `all` lists them.  Short and long branches and every `ldc.i4` shorthand are opcodes
of their own.  A mnemonic is read by looking it up in `all`, so nothing but a mnemonic is read:

    ofMnemonic? s = some o → o.mnemonic = s        (mnemonic_of_ofMnemonic?)
-/

namespace CilRecovery

inductive Opcode where
  | nop | brk | ldarg_0 | ldarg_1 | ldarg_2 | ldarg_3 | ldloc_0 | ldloc_1 | ldloc_2 | ldloc_3
  | stloc_0 | stloc_1 | stloc_2 | stloc_3 | ldarg_s | ldarga_s | starg_s | ldloc_s | ldloca_s
  | stloc_s | ldnull | ldc_i4_m1 | ldc_i4_0 | ldc_i4_1 | ldc_i4_2 | ldc_i4_3 | ldc_i4_4
  | ldc_i4_5 | ldc_i4_6 | ldc_i4_7 | ldc_i4_8 | ldc_i4_s | ldc_i4 | ldc_i8 | ldc_r4 | ldc_r8
  | dup | pop | jmp | call | calli | ret | br_s | brfalse_s | brtrue_s | beq_s | bge_s | bgt_s
  | ble_s | blt_s | bne_un_s | bge_un_s | bgt_un_s | ble_un_s | blt_un_s | br | brfalse | brtrue
  | beq | bge | bgt | ble | blt | bne_un | bge_un | bgt_un | ble_un | blt_un | switch | ldind_i1
  | ldind_u1 | ldind_i2 | ldind_u2 | ldind_i4 | ldind_u4 | ldind_i8 | ldind_i | ldind_r4
  | ldind_r8 | ldind_ref | stind_ref | stind_i1 | stind_i2 | stind_i4 | stind_i8 | stind_r4
  | stind_r8 | add | sub | mul | div | div_un | rem | rem_un | and | or | xor | shl | shr
  | shr_un | neg | not | conv_i1 | conv_i2 | conv_i4 | conv_i8 | conv_r4 | conv_r8 | conv_u4
  | conv_u8 | callvirt | cpobj | ldobj | ldstr | newobj | castclass | isinst | conv_r_un | unbox
  | throw | ldfld | ldflda | stfld | ldsfld | ldsflda | stsfld | stobj | conv_ovf_i1_un
  | conv_ovf_i2_un | conv_ovf_i4_un | conv_ovf_i8_un | conv_ovf_u1_un | conv_ovf_u2_un
  | conv_ovf_u4_un | conv_ovf_u8_un | conv_ovf_i_un | conv_ovf_u_un | box | newarr | ldlen
  | ldelema | ldelem_i1 | ldelem_u1 | ldelem_i2 | ldelem_u2 | ldelem_i4 | ldelem_u4 | ldelem_i8
  | ldelem_i | ldelem_r4 | ldelem_r8 | ldelem_ref | stelem_i | stelem_i1 | stelem_i2 | stelem_i4
  | stelem_i8 | stelem_r4 | stelem_r8 | stelem_ref | ldelem | stelem | unbox_any | conv_ovf_i1
  | conv_ovf_u1 | conv_ovf_i2 | conv_ovf_u2 | conv_ovf_i4 | conv_ovf_u4 | conv_ovf_i8
  | conv_ovf_u8 | refanyval | ckfinite | mkrefany | ldtoken | conv_u2 | conv_u1 | conv_i
  | conv_ovf_i | conv_ovf_u | add_ovf | add_ovf_un | mul_ovf | mul_ovf_un | sub_ovf | sub_ovf_un
  | endfinally | leave | leave_s | stind_i | conv_u | arglist | ceq | cgt | cgt_un | clt | clt_un
  | ldftn | ldvirtftn | ldarg | ldarga | starg | ldloc | ldloca | stloc | localloc | endfilter
  | unaligned | volatile | tail | initobj | constrained | cpblk | initblk | no | rethrow | sizeof
  | refanytype | readonly
deriving DecidableEq

namespace Opcode

/-- The spelling of the opcode in assembly text. -/
def mnemonic : Opcode → String
  | .nop => "nop"
  | .brk => "break"
  | .ldarg_0 => "ldarg.0"
  | .ldarg_1 => "ldarg.1"
  | .ldarg_2 => "ldarg.2"
  | .ldarg_3 => "ldarg.3"
  | .ldloc_0 => "ldloc.0"
  | .ldloc_1 => "ldloc.1"
  | .ldloc_2 => "ldloc.2"
  | .ldloc_3 => "ldloc.3"
  | .stloc_0 => "stloc.0"
  | .stloc_1 => "stloc.1"
  | .stloc_2 => "stloc.2"
  | .stloc_3 => "stloc.3"
  | .ldarg_s => "ldarg.s"
  | .ldarga_s => "ldarga.s"
  | .starg_s => "starg.s"
  | .ldloc_s => "ldloc.s"
  | .ldloca_s => "ldloca.s"
  | .stloc_s => "stloc.s"
  | .ldnull => "ldnull"
  | .ldc_i4_m1 => "ldc.i4.m1"
  | .ldc_i4_0 => "ldc.i4.0"
  | .ldc_i4_1 => "ldc.i4.1"
  | .ldc_i4_2 => "ldc.i4.2"
  | .ldc_i4_3 => "ldc.i4.3"
  | .ldc_i4_4 => "ldc.i4.4"
  | .ldc_i4_5 => "ldc.i4.5"
  | .ldc_i4_6 => "ldc.i4.6"
  | .ldc_i4_7 => "ldc.i4.7"
  | .ldc_i4_8 => "ldc.i4.8"
  | .ldc_i4_s => "ldc.i4.s"
  | .ldc_i4 => "ldc.i4"
  | .ldc_i8 => "ldc.i8"
  | .ldc_r4 => "ldc.r4"
  | .ldc_r8 => "ldc.r8"
  | .dup => "dup"
  | .pop => "pop"
  | .jmp => "jmp"
  | .call => "call"
  | .calli => "calli"
  | .ret => "ret"
  | .br_s => "br.s"
  | .brfalse_s => "brfalse.s"
  | .brtrue_s => "brtrue.s"
  | .beq_s => "beq.s"
  | .bge_s => "bge.s"
  | .bgt_s => "bgt.s"
  | .ble_s => "ble.s"
  | .blt_s => "blt.s"
  | .bne_un_s => "bne.un.s"
  | .bge_un_s => "bge.un.s"
  | .bgt_un_s => "bgt.un.s"
  | .ble_un_s => "ble.un.s"
  | .blt_un_s => "blt.un.s"
  | .br => "br"
  | .brfalse => "brfalse"
  | .brtrue => "brtrue"
  | .beq => "beq"
  | .bge => "bge"
  | .bgt => "bgt"
  | .ble => "ble"
  | .blt => "blt"
  | .bne_un => "bne.un"
  | .bge_un => "bge.un"
  | .bgt_un => "bgt.un"
  | .ble_un => "ble.un"
  | .blt_un => "blt.un"
  | .switch => "switch"
  | .ldind_i1 => "ldind.i1"
  | .ldind_u1 => "ldind.u1"
  | .ldind_i2 => "ldind.i2"
  | .ldind_u2 => "ldind.u2"
  | .ldind_i4 => "ldind.i4"
  | .ldind_u4 => "ldind.u4"
  | .ldind_i8 => "ldind.i8"
  | .ldind_i => "ldind.i"
  | .ldind_r4 => "ldind.r4"
  | .ldind_r8 => "ldind.r8"
  | .ldind_ref => "ldind.ref"
  | .stind_ref => "stind.ref"
  | .stind_i1 => "stind.i1"
  | .stind_i2 => "stind.i2"
  | .stind_i4 => "stind.i4"
  | .stind_i8 => "stind.i8"
  | .stind_r4 => "stind.r4"
  | .stind_r8 => "stind.r8"
  | .add => "add"
  | .sub => "sub"
  | .mul => "mul"
  | .div => "div"
  | .div_un => "div.un"
  | .rem => "rem"
  | .rem_un => "rem.un"
  | .and => "and"
  | .or => "or"
  | .xor => "xor"
  | .shl => "shl"
  | .shr => "shr"
  | .shr_un => "shr.un"
  | .neg => "neg"
  | .not => "not"
  | .conv_i1 => "conv.i1"
  | .conv_i2 => "conv.i2"
  | .conv_i4 => "conv.i4"
  | .conv_i8 => "conv.i8"
  | .conv_r4 => "conv.r4"
  | .conv_r8 => "conv.r8"
  | .conv_u4 => "conv.u4"
  | .conv_u8 => "conv.u8"
  | .callvirt => "callvirt"
  | .cpobj => "cpobj"
  | .ldobj => "ldobj"
  | .ldstr => "ldstr"
  | .newobj => "newobj"
  | .castclass => "castclass"
  | .isinst => "isinst"
  | .conv_r_un => "conv.r.un"
  | .unbox => "unbox"
  | .throw => "throw"
  | .ldfld => "ldfld"
  | .ldflda => "ldflda"
  | .stfld => "stfld"
  | .ldsfld => "ldsfld"
  | .ldsflda => "ldsflda"
  | .stsfld => "stsfld"
  | .stobj => "stobj"
  | .conv_ovf_i1_un => "conv.ovf.i1.un"
  | .conv_ovf_i2_un => "conv.ovf.i2.un"
  | .conv_ovf_i4_un => "conv.ovf.i4.un"
  | .conv_ovf_i8_un => "conv.ovf.i8.un"
  | .conv_ovf_u1_un => "conv.ovf.u1.un"
  | .conv_ovf_u2_un => "conv.ovf.u2.un"
  | .conv_ovf_u4_un => "conv.ovf.u4.un"
  | .conv_ovf_u8_un => "conv.ovf.u8.un"
  | .conv_ovf_i_un => "conv.ovf.i.un"
  | .conv_ovf_u_un => "conv.ovf.u.un"
  | .box => "box"
  | .newarr => "newarr"
  | .ldlen => "ldlen"
  | .ldelema => "ldelema"
  | .ldelem_i1 => "ldelem.i1"
  | .ldelem_u1 => "ldelem.u1"
  | .ldelem_i2 => "ldelem.i2"
  | .ldelem_u2 => "ldelem.u2"
  | .ldelem_i4 => "ldelem.i4"
  | .ldelem_u4 => "ldelem.u4"
  | .ldelem_i8 => "ldelem.i8"
  | .ldelem_i => "ldelem.i"
  | .ldelem_r4 => "ldelem.r4"
  | .ldelem_r8 => "ldelem.r8"
  | .ldelem_ref => "ldelem.ref"
  | .stelem_i => "stelem.i"
  | .stelem_i1 => "stelem.i1"
  | .stelem_i2 => "stelem.i2"
  | .stelem_i4 => "stelem.i4"
  | .stelem_i8 => "stelem.i8"
  | .stelem_r4 => "stelem.r4"
  | .stelem_r8 => "stelem.r8"
  | .stelem_ref => "stelem.ref"
  | .ldelem => "ldelem"
  | .stelem => "stelem"
  | .unbox_any => "unbox.any"
  | .conv_ovf_i1 => "conv.ovf.i1"
  | .conv_ovf_u1 => "conv.ovf.u1"
  | .conv_ovf_i2 => "conv.ovf.i2"
  | .conv_ovf_u2 => "conv.ovf.u2"
  | .conv_ovf_i4 => "conv.ovf.i4"
  | .conv_ovf_u4 => "conv.ovf.u4"
  | .conv_ovf_i8 => "conv.ovf.i8"
  | .conv_ovf_u8 => "conv.ovf.u8"
  | .refanyval => "refanyval"
  | .ckfinite => "ckfinite"
  | .mkrefany => "mkrefany"
  | .ldtoken => "ldtoken"
  | .conv_u2 => "conv.u2"
  | .conv_u1 => "conv.u1"
  | .conv_i => "conv.i"
  | .conv_ovf_i => "conv.ovf.i"
  | .conv_ovf_u => "conv.ovf.u"
  | .add_ovf => "add.ovf"
  | .add_ovf_un => "add.ovf.un"
  | .mul_ovf => "mul.ovf"
  | .mul_ovf_un => "mul.ovf.un"
  | .sub_ovf => "sub.ovf"
  | .sub_ovf_un => "sub.ovf.un"
  | .endfinally => "endfinally"
  | .leave => "leave"
  | .leave_s => "leave.s"
  | .stind_i => "stind.i"
  | .conv_u => "conv.u"
  | .arglist => "arglist"
  | .ceq => "ceq"
  | .cgt => "cgt"
  | .cgt_un => "cgt.un"
  | .clt => "clt"
  | .clt_un => "clt.un"
  | .ldftn => "ldftn"
  | .ldvirtftn => "ldvirtftn"
  | .ldarg => "ldarg"
  | .ldarga => "ldarga"
  | .starg => "starg"
  | .ldloc => "ldloc"
  | .ldloca => "ldloca"
  | .stloc => "stloc"
  | .localloc => "localloc"
  | .endfilter => "endfilter"
  | .unaligned => "unaligned."
  | .volatile => "volatile."
  | .tail => "tail."
  | .initobj => "initobj"
  | .constrained => "constrained."
  | .cpblk => "cpblk"
  | .initblk => "initblk"
  | .no => "no."
  | .rethrow => "rethrow"
  | .sizeof => "sizeof"
  | .refanytype => "refanytype"
  | .readonly => "readonly."

def all : List Opcode :=
  [.nop, .brk, .ldarg_0, .ldarg_1, .ldarg_2, .ldarg_3, .ldloc_0, .ldloc_1, .ldloc_2, .ldloc_3,
   .stloc_0, .stloc_1, .stloc_2, .stloc_3, .ldarg_s, .ldarga_s, .starg_s, .ldloc_s, .ldloca_s,
   .stloc_s, .ldnull, .ldc_i4_m1, .ldc_i4_0, .ldc_i4_1, .ldc_i4_2, .ldc_i4_3, .ldc_i4_4,
   .ldc_i4_5, .ldc_i4_6, .ldc_i4_7, .ldc_i4_8, .ldc_i4_s, .ldc_i4, .ldc_i8, .ldc_r4, .ldc_r8,
   .dup, .pop, .jmp, .call, .calli, .ret, .br_s, .brfalse_s, .brtrue_s, .beq_s, .bge_s, .bgt_s,
   .ble_s, .blt_s, .bne_un_s, .bge_un_s, .bgt_un_s, .ble_un_s, .blt_un_s, .br, .brfalse, .brtrue,
   .beq, .bge, .bgt, .ble, .blt, .bne_un, .bge_un, .bgt_un, .ble_un, .blt_un, .switch, .ldind_i1,
   .ldind_u1, .ldind_i2, .ldind_u2, .ldind_i4, .ldind_u4, .ldind_i8, .ldind_i, .ldind_r4,
   .ldind_r8, .ldind_ref, .stind_ref, .stind_i1, .stind_i2, .stind_i4, .stind_i8, .stind_r4,
   .stind_r8, .add, .sub, .mul, .div, .div_un, .rem, .rem_un, .and, .or, .xor, .shl, .shr,
   .shr_un, .neg, .not, .conv_i1, .conv_i2, .conv_i4, .conv_i8, .conv_r4, .conv_r8, .conv_u4,
   .conv_u8, .callvirt, .cpobj, .ldobj, .ldstr, .newobj, .castclass, .isinst, .conv_r_un, .unbox,
   .throw, .ldfld, .ldflda, .stfld, .ldsfld, .ldsflda, .stsfld, .stobj, .conv_ovf_i1_un,
   .conv_ovf_i2_un, .conv_ovf_i4_un, .conv_ovf_i8_un, .conv_ovf_u1_un, .conv_ovf_u2_un,
   .conv_ovf_u4_un, .conv_ovf_u8_un, .conv_ovf_i_un, .conv_ovf_u_un, .box, .newarr, .ldlen,
   .ldelema, .ldelem_i1, .ldelem_u1, .ldelem_i2, .ldelem_u2, .ldelem_i4, .ldelem_u4, .ldelem_i8,
   .ldelem_i, .ldelem_r4, .ldelem_r8, .ldelem_ref, .stelem_i, .stelem_i1, .stelem_i2, .stelem_i4,
   .stelem_i8, .stelem_r4, .stelem_r8, .stelem_ref, .ldelem, .stelem, .unbox_any, .conv_ovf_i1,
   .conv_ovf_u1, .conv_ovf_i2, .conv_ovf_u2, .conv_ovf_i4, .conv_ovf_u4, .conv_ovf_i8,
   .conv_ovf_u8, .refanyval, .ckfinite, .mkrefany, .ldtoken, .conv_u2, .conv_u1, .conv_i,
   .conv_ovf_i, .conv_ovf_u, .add_ovf, .add_ovf_un, .mul_ovf, .mul_ovf_un, .sub_ovf, .sub_ovf_un,
   .endfinally, .leave, .leave_s, .stind_i, .conv_u, .arglist, .ceq, .cgt, .cgt_un, .clt,
   .clt_un, .ldftn, .ldvirtftn, .ldarg, .ldarga, .starg, .ldloc, .ldloca, .stloc, .localloc,
   .endfilter, .unaligned, .volatile, .tail, .initobj, .constrained, .cpblk, .initblk, .no,
   .rethrow, .sizeof, .refanytype, .readonly]

/-! ## Reading and numbering -/

def index (o : Opcode) : Nat := o.ctorIdx

def ofIndex? (i : Nat) : Option Opcode := all[i]?

/-- The opcode with the given mnemonic; case counts. -/
def ofMnemonic? (s : String) : Option Opcode := all.find? fun o => o.mnemonic == s

theorem mnemonic_of_ofMnemonic? {s : String} {o : Opcode} (h : ofMnemonic? s = some o) :
    o.mnemonic = s := by
  simpa using List.find?_some h

theorem ofIndex?_index (o : Opcode) : ofIndex? o.index = some o := by
  cases o <;> rfl

theorem mem_all (o : Opcode) : o ∈ all := List.mem_of_getElem? (ofIndex?_index o)

/-- The identifier form of the mnemonic: its parts capitalised and run together. -/
def name (o : Opcode) : String := Text.camel o.mnemonic

/-- The opcodes of a list in the order of `all`; equal ones are kept. -/
def sorted (os : List Opcode) : List Opcode := os.mergeSort fun a b => decide (a.index ≤ b.index)

/-! ## Literals and calls -/

/-- The boolean that the opcode loads: compilers write `ldc.i4.0` and `ldc.i4.1` for the two. -/
def booleanLiteral? : Opcode → Option Bool
  | .ldc_i4_0 => some false
  | .ldc_i4_1 => some true
  | _ => none

def ofBoolean : Bool → Opcode
  | false => .ldc_i4_0
  | true => .ldc_i4_1

theorem booleanLiteral?_eq_some {o : Opcode} {b : Bool} :
    o.booleanLiteral? = some b ↔ o = ofBoolean b := by
  cases b <;> cases o <;> simp [booleanLiteral?, ofBoolean]

/-- The one-byte opcode that loads a small constant, for the constants from -1 to 8. -/
def shorthand? : Int → Option Opcode
  | -1 => some .ldc_i4_m1
  | 0 => some .ldc_i4_0
  | 1 => some .ldc_i4_1
  | 2 => some .ldc_i4_2
  | 3 => some .ldc_i4_3
  | 4 => some .ldc_i4_4
  | 5 => some .ldc_i4_5
  | 6 => some .ldc_i4_6
  | 7 => some .ldc_i4_7
  | 8 => some .ldc_i4_8
  | _ => none

def isCall : Opcode → Bool
  | .call | .callvirt | .newobj | .jmp | .ldftn | .ldvirtftn => true
  | _ => false

end Opcode

end CilRecovery
