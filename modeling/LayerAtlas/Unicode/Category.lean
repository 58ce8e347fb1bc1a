import LayerAtlas.Unicode.Table

namespace LayerAtlas.Unicode

def categoryNames : List String :=
  ["Lu", "Ll", "Lt", "Lm", "Lo", "Mn", "Mc", "Me", "Nd", "Nl", "No", "Pc", "Pd", "Ps",
    "Pe", "Pi", "Pf", "Po", "Sm", "Sc", "Sk", "So", "Zs", "Zl", "Zp", "Cc", "Cf",
    "Cs", "Co", "Cn"]

def categorySigns : List Char :=
  "0123456789:;<=>?@!#$%&()*+,.^_".toList

/-- The runs from the first code point on: the length of each and the sign of its category. -/
def categoryText : List String :=
  [ "bG+B(D!B$D!B=B>B!B#B!B<C!K8C!D#C!bA0B=B!B>B%B;B%bA1B=B#B>B#bH+B(B!E$B&B!B%B&B4B?B#B,B&B%B",
    "&B#C:B%B1C!B%B:B4B@D:B!X0B#H0Y1B#I1B0B1B0B1B0B1B0B1B0B1B0B1B0B1B0B1B0B1B0B1B0B1B0B1B0B1B0",
    "B1B0B1B0B1B0B1B0B1B0B1B0B1B0B1B0B1B0B1B0B1B0B1B0B1B0B1B0C1B0B1B0B1B0B1B0B1B0B1B0B1B0B1B0C",
    "1B0B1B0B1B0B1B0B1B0B1B0B1B0B1B0B1B0B1B0B1B0B1B0B1B0B1B0B1B0B1B0B1B0B1B0B1B0B1B0B1B0B1B0B1",
    "B0B1C0B1B0B1B0D1C0B1B0B1C0B1D0C1E0B1C0B1D0D1C0B1C0B1B0B1B0B1C0B1B0C1B0B1C0B1D0B1B0B1C0C1B",
    "4B0D1E4B0B2B1B0B2B1B0B2B1B0B1B0B1B0B1B0B1B0B1B0B1B0B1B0C1B0B1B0B1B0B1B0B1B0B1B0B1B0B1B0B1",
    "B0C1B0B2B1B0B1D0B1B0B1B0B1B0B1B0B1B0B1B0B1B0B1B0B1B0B1B0B1B0B1B0B1B0B1B0B1B0B1B0B1B0B1B0B",
    "1B0B1B0B1B0B1B0B1B0B1B0B1B0B1B0B1B0B1B0B1B0H1C0B1C0C1B0B1E0B1B0B1B0B1B0B1B0cR1B4bB1S3E%M3",
    "O%F3H%B3B%B3R%eI5B0B1B0B1B3B%B0B1C_B3D1B!B0E_C%B0B!D0B_B0B_C0B1R0B_J0bJ1B0C1D0D1B0B1B0B1B",
    "0B1B0B1B0B1B0B1B0B1B0B1B0B1B0B1B0B1B0F1B0B1B#B0B1C0C1bZ0bW1B0B1B0B1B0B1B0B1B0B1B0B1B0B1B0",
    "B1B0B1B0B1B0B1B0B1B0B1B0B1B0B1B0B1B0B1B&F5C7B0B1B0B1B0B1B0B1B0B1B0B1B0B1B0B1B0B1B0B1B0B1B",
    "0B1B0B1B0B1B0B1B0B1B0B1B0B1B0B1B0B1B0B1B0B1B0B1B0B1B0B1B0B1B0B1C0B1B0B1B0B1B0B1B0B1B0B1B0",
    "C1B0B1B0B1B0B1B0B1B0B1B0B1B0B1B0B1B0B1B0B1B0B1B0B1B0B1B0B1B0B1B0B1B0B1B0B1B0B1B0B1B0B1B0B",
    "1B0B1B0B1B0B1B0B1B0B1B0B1B0B1B0B1B0B1B0B1B0B1B0B1B0B1B0B1B0B1B0B1B0B1B0B1B0B1B0B1B0B1B0B1",
    "B0B1B0B1B0B1B0B1B_bM0C_B3G!bP1B!B<C_C&B$B_bT5B<B5B!C5B!C5B!B5I_bB4E_E4C!L_G,D#C!B$C!C&L5B",
    "!B,D!bG4B3K4V5K8E!C4B5dV4B!B4H5B,B&G5C3C5B&E5C4K8D4C&B4O!B_B,B4B5bE4bB5C_dL4L5B4O_K8bH4J5",
    "C3B&D!B3C_B5C$W4E5B3J5B3D5B3F5C_P!B_Z4D5C_B!B_L4F_Y4B%G4B_C,F_J5bP4B3Y5B,bG5B6cC4B5B6B5B4",
    "D6I5E6B5C6B4H5K4C5C!K8B!B3P4B5C6B_I4C_C4C_W4B_H4B_B4D_E4C_B5B4D6E5C_C6C_C6B5B4I_B6E_C4B_D",
    "4C5C_K8C4C$G:B&B$B4B!B5C_C5B6B_G4E_C4C_W4B_H4B_C4B_C4B_C4C_B5B_D6C5E_C5C_D5D_B5H_E4B_B4H_",
    "K8C5D4B5B!K_C5B6B_J4B_D4B_W4B_H4B_C4B_F4C_B5B4D6F5B_C5B6B_C6B5C_B4P_C4C5C_K8B!B$H_B4G5B_B",
    "5C6B_I4C_C4C_W4B_H4B_C4B_F4C_B5B4B6B5B6E5C_C6C_C6B5H_C5B6E_C4B_D4C5C_K8B&B4G:K_B5B4B_G4D_",
    "D4B_E4D_C4B_B4B_C4D_C4D_D4D_M4E_C6B5C6D_D6B_D6B5C_B4G_B6O_K8D:G&B$B&F_B5D6B5I4B_D4B_X4B_Q",
    "4C_B5B4D5E6B_D5B_E5H_C5B_D4C_B4C_C4C5C_K8H_B!H:B&B4B5C6B!I4B_D4B_X4B_K4B_F4C_B5B4B6B5F6B_",
    "B5C6B_C6C5H_C6G_C4B_C4C5C_K8B_C4B6M_C5C6J4B_D4B_bP4C5B4D6E5B_D6B_D6B5B4B&E_D4B6H:D4C5C_K8",
    "J:B&G4B_B5C6B_S4D_Y4B_J4B_B4C_H4D_B5E_D6D5B_B5B_I6G_K8C_C6B!M_bW4B5C4H5E_B$G4B3I5B!K8C!bL",
    "_C4B_B4B_F4B_Y4B_B4B_K4B5C4J5B4C_F4B_B3B_H5B_K8C_E4bG_B4D&P!B&B!D&C5G&K8K:B&B5B&B5B&B5B=B",
    ">B=B>C6I4B_bK4E_O5B6F5B!C5F4L5B_bK5B_I&B5G&B_C&F!E&C!bL_bR4C6E5B6G5B6C5C6C5B4K8G!G4C6C5E4",
    "D5B4D6C4H6D4E5N4B5C6C5G6B5B4B6K8D6B5C&bM0B_B0F_B0C_bR1B!B3D1mR4B_E4C_H4B_B4B_E4C_bP4B_E4C",
    "_bH4B_E4C_H4B_B4B_E4C_P4B_cF4B_E4C_cP4C_D5J!U:D_Q4K&G_dI0C_G1C_B<xW4B&B!R4B(bA4B=B>D_cX4D",
    "!D9I4H_S4D5B6J_T4C5B6C!J_S4C5M_N4B_D4B_C5M_cA4C5B6H5I6B5C6L5D!B3D!B$B4B5C_K8G_K:G_G!B<E!D",
    "5B,B5K8G_bJ4B3cB4H_F4C5bI4B5B4F_cS4K_bF4B_D5E6C5D6E_C6B5G6D5E_B&D_C!K8bE4C_F4L_bS4E_bA4G_",
    "K8B:D_bI&X4C5C6B5C_C!cB4B6B5B6H5B_B5B6B5C6I5G6K5C_B5K8G_K8G_H!B3G!C_O5B7Q5bX_E5B6bV4B5B6F",
    "5B6B5F6B5C6I4B_C!K8H!K&J5J&D!C5B6bE4B6E5C6C5B6D5C4K8bS4B5B6C5D6B5B6D5C6I_E!bK4I6I5C6C5D_F",
    "!K8D_D4K8bE4G3C!J1B0B1F_bR0C_D0I!I_D5B!N5B6H5E4B5G4B5C4B6C5B4F_bS1cL3N1B3bI1bL3cM5B0B1B0B",
    "1B0B1B0B1B0B1B0B1B0B1B0B1B0B1B0B1B0B1B0B1B0B1B0B1B0B1B0B1B0B1B0B1B0B1B0B1B0B1B0B1B0B1B0B1",
    "B0B1B0B1B0B1B0B1B0B1B0B1B0B1B0B1B0B1B0B1B0B1B0B1B0B1B0B1B0B1B0B1B0B1B0B1B0B1B0B1B0B1B0B1B",
    "0B1B0B1B0B1B0B1B0B1B0B1B0B1B0B1B0B1B0B1B0B1B0B1B0B1B0B1B0B1B0B1B0B1B0B1B0B1B0B1B0B1B0B1B0",
    "B1B0B1B0B1B0B1B0B1B0B1B0J1B0B1B0B1B0B1B0B1B0B1B0B1B0B1B0B1B0B1B0B1B0B1B0B1B0B1B0B1B0B1B0B",
    "1B0B1B0B1B0B1B0B1B0B1B0B1B0B1B0B1B0B1B0B1B0B1B0B1B0B1B0B1B0B1B0B1B0B1B0B1B0B1B0B1B0B1B0B1",
    "B0B1B0B1B0B1B0B1B0B1B0B1B0B1B0B1B0B1B0B1B0J1I0G1C_G0C_I1I0I1I0G1C_G0C_I1B_B0B_B0B_B0B_B0I",
    "1I0O1C_I1I2I1I2I1I2F1B_C1E0B2B%B1D%D1B_C1E0B2D%E1C_C1E0B_D%I1F0D%C_D1B_C1E0B2C%B_L(F,G<C!",
    "B?B@B=C?B@B=B?I!B)B*F,B(J!B?B@E!C;D!B#B=B>L!B#B!B;K!B(F,B_K,B:B3C_G:D#B=B>B3K:D#B=B>B_N3D",
    "_bH$P_N5E7B5D7M5P_C&B0E&B0C&B1D0C1D0B1B&B0C&B#F0G&B0B&B0B&B0B&E0B&B1E0B1E4B1C&C1C0F#B0E1B",
    "&B#C&B1B&Q:bJ9B0B1E9B:C&E_F#F&C#E&B#C&B#C&B#H&B#bF&C#C&B#B&B#bF&kI#I&B=B>B=B>U&C#H&B=B>dD",
    "&B#bE&Z#bO&G#cU&W_L&V_cI:dA&W:hB&B#J&B#cC&I#eH&B#jO&B=B>B=B>B=B>B=B>B=B>B=B>B=B>bE:bS&F#B",
    "=B>bF#B=B>B=B>B=B>B=B>B=B>Q#jW&fB#B=B>B=B>B=B>B=B>B=B>B=B>B=B>B=B>B=B>B=B>B=B>cL#B=B>B=B>",
    "bG#B=B>jY#bW&V#C&G#bN&C_bG&B_eB&bW0bW1B0B1D0C1B0B1B0B1B0B1E0B1B0C1B0G1C3D0B1B0B1B0B1B0B1B",
    "0B1B0B1B0B1B0B1B0B1B0B1B0B1B0B1B0B1B0B1B0B1B0B1B0B1B0B1B0B1B0B1B0B1B0B1B0B1B0B1B0B1B0B1B0",
    "B1B0B1B0B1B0B1B0B1B0B1B0B1B0B1B0B1B0B1B0B1B0B1B0B1B0B1B0B1B0B1B0B1B0B1B0B1B0B1B0B1B0B1B0B",
    "1B0C1G&B0B1B0B1D5B0B1F_E!B:C!bM1B_B1F_B1C_cE4H_B3B!O_B5X4J_H4B_H4B_H4B_H4B_H4B_H4B_H4B_H4",
    "B_bG5C!B?B@B?B@D!B?B@B!B?B@J!B<C!B<B!B?B@C!B?B@B=B>B=B>B=B>B=B>F!B3K!C<E!B<B!B=N!C&D!B=B>",
    "B=B>B=B>B=B>B<bI_bA&B_dL&M_iG&bA_Q&B(D!B&B3B4B9B=B>B=B>B=B>B=B>B=B>C&B=B>B=B>B=B>B=B>B<B=",
    "C>B&J9E5C6B<F3C&D9B3B4B!C&B_dI4C_C5C%C3B4B<dM4B!D3B4F_bR4B_dQ4B_C&E:K&bG4bM&J_B&Q4bF&B_K:",
    "bE&I:B&P:bG&K:bN&P:mI&jtO4cM&bfcF4B3brZ4D_cD&J_bO4G3C!kI4B3D!Q4K8C4U_B0B1B0B1B0B1B0B1B0B1",
    "B0B1B0B1B0B1B0B1B0B1B0B1B0B1B0B1B0B1B0B1B0B1B0B1B0B1B0B1B0B1B0B1B0B1B0B1B4B5D7B!K5B!B3B0B",
    "1B0B1B0B1B0B1B0B1B0B1B0B1B0B1B0B1B0B1B0B1B0B1B0B1B0B1C3C5cS4K9C5G!I_X%J3C%B0B1B0B1B0B1B0B",
    "1B0B1B0B1B0D1B0B1B0B1B0B1B0B1B0B1B0B1B0B1B0B1B0B1B0B1B0B1B0B1B0B1B0B1B0B1B0B1B0B1B0B1B0B1",
    "B0B1B0B1B0B1B0B1B0B1B0B1B0B1B0B1B0B1B0B1B0B1B0B1B3I1B0B1B0B1C0B1B0B1B0B1B0B1B0B1B3C%B0B1B",
    "0B1B4B0B1B0D1B0B1B0B1B0B1B0B1B0B1B0B1B0B1B0B1B0B1B0B1F0B1F0B1B0B1B0B1B0B1B0B1B0B1B0B1B0B1",
    "E0B1B0B1C0B1C_B0B1B_B1B_B1B0B1B0B1B0B1B0V_D3B0B1B4C3B1H4B5D4B5E4B5X4C6C5B6E&B5D_G:C&B$B&G",
    "_cA4E!I_C6bY4Q6C5I_C!K8G_S5G4D!B4B!C4B5K8bC4I5C!X4L5C6L_B!bD4D_D5B6bV4B5C6E5C6C5D6N!B_B3K",
    "8E_C!F4B5B3J4K8F4B_bP4G5C6C5C6C5J_D4B5I4B5B6C_K8C_E!Q4B3G4D&B4B6B5B6bY4B5B4D5C4C5F4C5B4B5",
    "B4Y_C4B3C!L4B6C5C6C!B4C3B6B5K_G4C_G4C_G4J_H4B_H4B_bR1B%E3J1B3C%E_dC1bJ4C6B5C6B5C6B!B6B5C_",
    "K8G_qnS4M_X4E_bX4E_daU.jmE^oC4C_eC4bM_H1M_F1F_B4B5K4B#N4B_F4B_B4B_C4B_C4B_eE4R%Q_nZ4B>B=Q",
    "&cM4C_cC4H_B&bG_M4B$D&Q5H!B=B>B!G_Q5B!C<C;B=B>B=B>B=B>B=B>B=B>B=B>B=B>B=B>C!B=B>E!D;D!B_E",
    "!B<B=B>B=B>B=B>D!B#B<D#B_B!B$C!E_F4B_fF4C_B,B_D!B$D!B=B>B!B#B!B<C!K8C!D#C!bA0B=B!B>B%B;B%",
    "bA1B=B#B>B#B=B>B!B=B>C!K4B3bT4C3bF4D_G4C_G4C_G4C_D4D_C$B#B%B&C$B_B&E#C&K_D,C&C_M4B_bA4B_T",
    "4B_C4B_P4C_O4bI_eT4F_D!E_bT:D_J&cB9E:R&C:D&B_N&D_B&bV_bT&B5fA_bD4D_bX4P_B5bB:E_bG4E:J_U4B",
    "9I4B9F_bM4F5F_bE4B_B!bK4E_I4B!F9bQ_bO0bO1dA4C_K8G_bK0E_bK1E_bO4I_cA4L_B!L0B_P0B_H0B_C0B_L",
    "1B_P1B_H1B_C1D_cA4M_lZ4J_W4K_I4Y_G3B_bQ3B_J3cR_G4C_B4B_bS4B_C4D_B4C_X4B_B!I:X4C&H:bF4I_J:",
    "bW_T4B_C4F_F:W4G:D_B!bA4F_B!cM_cE4E_C:C4Q:C_bU:B4D5B_C5F_E5E4B_D4B_bD4C_D5E_B5J:H_J!H_bD4",
    "C:B!bD4D:bG_I4B&bC4C5E_F:H!J_cC4D_H!W4C_I:T4F_I:S4H_E!M_H:dC_cV4cD_bZ0N_bZ1H_G:bK4E5I_K8G",
    "_K8E4B3B4W0D_F5B<B3W1I_C#iA_bF:B_bQ4B_C5B<C_C4Q_D4cD_E5bD4K:B4I_W4L5E:F!W_S4E5E!bM_V4H:U_",
    "X4J_B6B5B6cB4P5H!E_U:K8B5C4C5B4J_D5B6bT4D6E5C6C5C!B,E!B5K_B,C_Z4H_K8G_D5bK4F5B6I5B_K8E!B4",
    "C6B4I_bJ4B5C!B4J_C5B6bW4D6J5C6E4E!E5B!B6B5K8B4B!B4D!B_U:L_S4B_Z4D6D5C6B5B6C5G!B5C4B5cK_H4",
    "B_B4B_E4B_P4B_K4B!G_bV4B5D6I5F_K8G_C5C6B_I4C_C4C_W4B_H4B_C4B_F4B_C5B4C6B5E6C_C6C_D6C_B4G_",
    "B6F_F4C6C_H5D_F5L_K4B_B4C_B4B_bM4B_B4D6G5B_B6C_B6B_E6B_C6B5B6B5B4B5B4C!B_C!I_C5bD_cB4D6I5",
    "C6D5B6B5E4F!K8C!B_B!B5D4bE_bW4D6G5B6B5E6C5B6C5C4B!B4I_K8gK_bV4D6E5C_E6C5B6C5X!E4C5bI_bW4D",
    "6I5C6B5B6C5D!B4L_K8G_N!T_bR4B5B6B5C6G5B6B5B4B!G_K8G_U8bC_bB4C_B5B6B5C6E5B6F5E_K8C:D!B&H4h",
    "D_bS4D6J5B6C5B!dW_bG0bG1K8J:M_I4C_B4C_I4B_C4B_Y4G6B_C6C_C5B6B5B4B6B4B6B5D!J_K8cS_I4C_bN4D",
    "6E5C_C5E6B5B4B!B4B6bB_B4K5bO4G5B6B4E5I!B5I_B4G5C6D5bU4N5B6C5D!B4F!N_cV4H_K!hA_bH4B!O_K8G_",
    "J4B_bL4B6H5B_G5B6B5B4F!K_K8T:D_C!bE4C_W5B_B6H5B6C5B6C5cV_H4B_C4B_bM4G5D_B5B_C5B_H5B4B5I_K",
    "8G_G4B_C4B_bG4F6B_C5B_C6B5B6B5B4H_K8lY_T4C5C6C!H_C5B4B6N4B_bI4C6F5D_C6B5B6B5N!K8B5dH_B4P_",
    "V:I&E$R&N_B!bjM4dY_eH9B_F!L_hO4dxK_dT4C!N_bpG4Q,B5G4P5K_fxR4F_wL4kdD_bE4M5D6D5K8coS_vX4H_",
    "bF4B_K8E_C!dB4B_K8G_bE4C_F5B!K_bW4H5F!E&E3B!B&K_K8B_H:B_V4F_T4qQ_D3bO4C3D!K8hQ_bG0bG1X:E!",
    "dX_cX4E_B5B4cD6H_E5N3cM_C3B!B3B5L_C6O_jcA4I_bvQ4bP_K4nfR_E3B_H3B_C3B_lF4P_B4bD_D4C_B4O_E4",
    "I_pG4dkU_eD4F_N4D_J4H_K4C_B&C5B!E,fvG_jG&K8G_qU&cY_bU5C_X5J_eM&cI_jM&K_bN&C_cI&C6D5D&G6I,",
    "I5C&H5bE&E5cJ&V_cO&D5B&eS_U:M_U:M_dJ&J_Z:fF_bA0bA1bA0H1B_S1bA0bA1B0B_C0C_B0C_C0C_E0B_I0E1",
    "B_B1B_H1B_L1bA0bA1C0B_E0C_I0B_H0B_bA1C0B_E0B_F0B_B0D_H0B_bA1bA0bA1bA0bA1bA0bA1bA0bA1bA0bA",
    "1bA0bC1C_Z0B#Z1B#G1Z0B#Z1B#G1Z0B#Z1B#G1Z0B#Z1B#G1Z0B#Z1B#G1B0B1C_bY8tS&cD5E&bY5I&B5O&B5C&",
    "F!P_F5B_P5bqM_K1B4U1G_G1iF_H5B_R5C_H5B_C5B_F5F_cK3bH_B5eI_bT4D_H5H3C_K8E_B4B&mI_bE4B5R_bS",
    "4E5K8F_B$rW_bB4B3E5K8iG_bE4C5B4K8E_B!sM_H4B_E4B_C4B_P4B_hP4C_J:H5bP_bI0bI1H5B3E_K8E_C!beF",
    "_cH:B&D:B$E:cY_bT:B&P:hM_E4B_bB4B_C4B_B4C_B4B_K4B_E4B_B4B_B4G_B4E_B4B_B4B_B4B_D4B_C4B_B4C",
    "_B4B_B4B_B4B_B4B_B4B_C4B_B4C_E4B_H4B_E4B_E4B_B4B_K4B_R4F_D4B_F4B_R4cA_C#kK_bS&E_dW&M_P&C_",
    "P&B_P&B_bL&K_N:gF&cE_bD&N_bS&E_J&H_C&O_G&fY_jR&F%bcA&E_R&D_N&D_eP&E_dR&G_M&E_B&P_M&E_cE&I",
    "_K&G_bO&I_bE&C_M&E_C&cK_nC&M_O&C_N&D_K&F_cE&H_P&C_L&G_J&H_fR&B_dO&K8bnQ_clfC4bG_gdU4G_iO4",
    "C_inQ4O_lbL4P_xY4dqW_uW4cfY_hhZ4F_gfG4bomxL_B,bE_dS,eY_jG5dsfO_dsyO^C_dsyO^C_" ]

def readRuns (start acc : Nat) : List Char → List (String × Nat × Nat)
  | [] => []
  | c :: s =>
    if c.isAlpha then readRuns start (acc * 26 + digitOf c) s
    else
      let name := (categoryNames[categorySigns.idxOf c]?).getD "Cn"
      (name, start, start + acc - 1) :: readRuns (start + acc) 0 s

def categoryRuns : List (String × Nat × Nat) := readRuns 0 0 (String.join categoryText).toList

def ofCategories (names : List String) : CharSet :=
  .ofRanges ((categoryRuns.filter fun run => names.elem run.1).map Prod.snd)

def letters : CharSet := ofCategories ["Lu", "Ll", "Lt", "Lm", "Lo"]

def marks : CharSet := ofCategories ["Mn", "Mc", "Me"]

def numbers : CharSet := ofCategories ["Nd", "Nl", "No"]

end LayerAtlas.Unicode
