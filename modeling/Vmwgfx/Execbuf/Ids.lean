/-! The command ids of `svga_reg.h` and `svga3d_reg.h` that the verifier knows. -/

namespace Vmwgfx.Execbuf

def svgaCmdUpdate : Nat := 1
def svgaCmdDefineGmrfb : Nat := 36
def svgaCmdBlitGmrfbToScreen : Nat := 37
def svgaCmdBlitScreenToGmrfb : Nat := 38
def svgaCmdMax : Nat := 43

def svga3dCmdBase : Nat := 1040

def svga3dCmdSurfaceDefine : Nat := 1040
def svga3dCmdSurfaceDestroy : Nat := 1041
def svga3dCmdSurfaceCopy : Nat := 1042
def svga3dCmdSurfaceStretchblt : Nat := 1043
def svga3dCmdSurfaceDma : Nat := 1044
def svga3dCmdContextDefine : Nat := 1045
def svga3dCmdContextDestroy : Nat := 1046
def svga3dCmdSettransform : Nat := 1047
def svga3dCmdSetzrange : Nat := 1048
def svga3dCmdSetrenderstate : Nat := 1049
def svga3dCmdSetrendertarget : Nat := 1050
def svga3dCmdSettexturestate : Nat := 1051
def svga3dCmdSetmaterial : Nat := 1052
def svga3dCmdSetlightdata : Nat := 1053
def svga3dCmdSetlightenabled : Nat := 1054
def svga3dCmdSetviewport : Nat := 1055
def svga3dCmdSetclipplane : Nat := 1056
def svga3dCmdClear : Nat := 1057
def svga3dCmdPresent : Nat := 1058
def svga3dCmdShaderDefine : Nat := 1059
def svga3dCmdShaderDestroy : Nat := 1060
def svga3dCmdSetShader : Nat := 1061
def svga3dCmdSetShaderConst : Nat := 1062
def svga3dCmdDrawPrimitives : Nat := 1063
def svga3dCmdSetscissorrect : Nat := 1064
def svga3dCmdBeginQuery : Nat := 1065
def svga3dCmdEndQuery : Nat := 1066
def svga3dCmdWaitForQuery : Nat := 1067
def svga3dCmdPresentReadback : Nat := 1068
def svga3dCmdBlitSurfaceToScreen : Nat := 1069
def svga3dCmdSurfaceDefineV2 : Nat := 1070
def svga3dCmdGenerateMipmaps : Nat := 1071
def svga3dCmdActivateSurface : Nat := 1080
def svga3dCmdDeactivateSurface : Nat := 1081
def svga3dCmdScreenDma : Nat := 1082
def svga3dCmdSetUnitySurfaceCookie : Nat := 1083
def svga3dCmdOpenContextSurface : Nat := 1084
def svga3dCmdLogicopsBitblt : Nat := 1085
def svga3dCmdLogicopsTransblt : Nat := 1086
def svga3dCmdLogicopsStretchblt : Nat := 1087
def svga3dCmdLogicopsColorfill : Nat := 1088
def svga3dCmdLogicopsAlphablend : Nat := 1089
def svga3dCmdLogicopsCleartypeblend : Nat := 1090
def svga3dCmdSetOtableBase : Nat := 1091
def svga3dCmdReadbackOtable : Nat := 1092
def svga3dCmdDefineGbMob : Nat := 1093
def svga3dCmdDestroyGbMob : Nat := 1094
def svga3dCmdRedefineGbMob : Nat := 1095
def svga3dCmdUpdateGbMobMapping : Nat := 1096
def svga3dCmdDefineGbSurface : Nat := 1097
def svga3dCmdDestroyGbSurface : Nat := 1098
def svga3dCmdBindGbSurface : Nat := 1099
def svga3dCmdCondBindGbSurface : Nat := 1100
def svga3dCmdUpdateGbImage : Nat := 1101
def svga3dCmdUpdateGbSurface : Nat := 1102
def svga3dCmdReadbackGbImage : Nat := 1103
def svga3dCmdReadbackGbSurface : Nat := 1104
def svga3dCmdInvalidateGbImage : Nat := 1105
def svga3dCmdInvalidateGbSurface : Nat := 1106
def svga3dCmdDefineGbContext : Nat := 1107
def svga3dCmdDestroyGbContext : Nat := 1108
def svga3dCmdBindGbContext : Nat := 1109
def svga3dCmdReadbackGbContext : Nat := 1110
def svga3dCmdInvalidateGbContext : Nat := 1111
def svga3dCmdDefineGbShader : Nat := 1112
def svga3dCmdBindGbShader : Nat := 1114
def svga3dCmdDestroyGbShader : Nat := 1113
def svga3dCmdSetOtableBase64 : Nat := 1115
def svga3dCmdBeginGbQuery : Nat := 1116
def svga3dCmdEndGbQuery : Nat := 1117
def svga3dCmdWaitForGbQuery : Nat := 1118
def svga3dCmdNop : Nat := 1119
def svga3dCmdEnableGart : Nat := 1120
def svga3dCmdDisableGart : Nat := 1121
def svga3dCmdMapMobIntoGart : Nat := 1122
def svga3dCmdUnmapGartRange : Nat := 1123
def svga3dCmdDefineGbScreentarget : Nat := 1124
def svga3dCmdDestroyGbScreentarget : Nat := 1125
def svga3dCmdBindGbScreentarget : Nat := 1126
def svga3dCmdUpdateGbScreentarget : Nat := 1127
def svga3dCmdReadbackGbImagePartial : Nat := 1128
def svga3dCmdInvalidateGbImagePartial : Nat := 1129
def svga3dCmdSetGbShaderconstsInline : Nat := 1130
def svga3dCmdMax : Nat := 1142

end Vmwgfx.Execbuf
