import RobotKit.Text.Packed

/-!
# Tables of Unicode

Data of normalisation form KC, and classes of code points. The full compatibility decompositions are
those of the characters that can stand in an identifier. Hangul syllables follow a rule and are not
listed.
-/

namespace RobotKit.Text.UnicodeTable

/-- The tables below, with form feeds between them, packed. -/
def packedTables : String :=
  "j[mMinG>@(!ofiFDcf<Q|>|n@xMKS3Fya4g%Y2A5KRbcgkGprAb.(h6nq_8AsH0m$K97>+tqN/pp!yoR82HQf:boQwdt.nHp0|lC
RU0iFFss8]o&%b2JazH6zbCw8!|k3+P(am?ji|aN_%+$B^zz,$SrhLY63<;yLEK=OG+7d'!ia%9zln2~5g4h_&]lKiCyYu%<;Vv-
dcVT4w=@'m$B2D[O9>:qF/_2PXM|]RGYPiVSXjKpqnp>f1-cg_HLlwZs'f+:Hjlqf_0uCQ/>wj=$h7nfpQ[Abbm.NY*Sr<J,Niho
|L'NdK($J.ekr+C[[Ltq9|>QVhQ|hi)QV>R@3@JlO;fr^7X*eh@d;1!~_,KY<VIF5JHoQy>HH_qZ7u>Amdf[Fj;2?m5h,rdxd?]w
TXW3:w)=f!'8tE[gQ*8^cxoWg)fG=B>$O68Q>w;E9G5Je<Rb6Px;yoo/,uY~KgAc*3i?J>6Y0iJgZXH[3'.CVd>v31R,t5.k2HZ!
ob<fjiEu0GKk+>kF3T73gra_M_DS.bIFbyu6t!UE<wYFaX&DSI?VkZv|uA'Ji^,-Hw2L=&?$ifuJ=YepC$_|m3r@5[6(v4m'[EDS
icx8PYBKSBN=Vby:o$ox'MgAOdO6t%57bw/]dQD8W.vTxgdfRs<>DNcHP@I%(HzyTS<ouij19UxeDg-G0YipoR8][E,5DwT]J8Kj
/N&~n>zuN4yw;&56@n=9J+1nUEEt%AA6e<|TIR2@n&$^hAgUN*X4Te05uGAAoW<bfn~R_ml,E<g6%GGgh3/*k)q2Jyw/JU7s[s.>
JN~b2T^:.mgGB<^^yx9f6Px(,DegeG]K[_Wo,8X@n%e/GT(~hDS)&z@ptL2mOcWTRWS))8wnbV-ti)%44AG?)gHzcrCs)o0bx4v&
wD;LG5sT>J>49P'1%~3B)CpnfL*PA_/?NcV?o,R;gY4nXn&!JDW&=,&Lkjuib'jhZ+c1KWxFY0!^wbU%QX0*tta4hv8C7E><5%Wl
f1d?]n:U4?(|ebRHM(C.(FnPfB(T>[K90zG>l/:1_Xs+p0wi<:Ge/kP-;j/CpOYq@%<8C0[y<LRXd;I8,a=u*D^7-'E!1;VXZ>x+
FS!h!lwoUXh|$mL?3t9>VA6[8*Ba>r+uDE[vAKymE=1DY(';&=iKS0NO]a5pfV/W@+D[gU^-QY54d,zXUa9y3!WQL~sBW[5v2%gt
REjsXjoj&(ZVFqlZ|cX_JmCkivx[,^bSd~Vlu97])M^7mUW+8;2pBi1X.u|&dj;PRE>UzG>N3%pl-JHM>c.;1i[328-de0q/@%cR
K*^aoui4|_/][tKP:@wP*qU$~H7<.j=N(W*^'gcI~-|s:r<pF-DEy-'2:5oi]Hc[^)Zz.B!'ZD(q<KI2i@I4J(z;3j8)^$)rBSR&
g3hyV7EN>Ett2~q%_Ja2s~'s:s9tT<([j2GW0@.!k]^_=1<x)qfa<RJ;k7Kc1R|zql:HR[AhL0sa(~pD:5)R/KY7*e-<ZkaJE.@w
gG|;oxPCVg3qq8NdpGDqI4Ip<u4JoGCNwe'IO>&D1Vls6NikJ)u<8.cBi:l?v)m?R.B9C|GR/sh*DPvgoczGfvPTD6&MVvgI,~J-
x'f-,]RF.F[RE>(h<9,00M2NEJQ|~T/D/N)@A]VxZPXPe$tT,@,r_H+PlsiJ/H2.mxKE3%dmlG[T$Q*VNC^[0&d54YzC=n8kd!HR
;OIMV*9J@r]*DiaZE/4h)>Cim1qEZ1D:55rh@|RNxw=%Dc!&>@cyS7U^n+Lr1lU(x0D:^|6xcANW0Kh~djr8WRxuV?sXHfwK5C=n
PoH7:.<!bzo'*c)],QzHs:y@HcuGwtQ03)|~&W8!8<<2l_jM?DB1uG35JW]*x:9(X<ty9gzYp%Am'(Y?4x?ZdEgXH~a5/NlcF^_8
Eb8zr4!SyX=;pnYDjwna@+kqr/M_HKeOA@&I^KFr8Sv><ab^G!A*rFQ$)vAhxfHad,Kfy0,^sUeCi5%N5!jz;8[fpn>9ssa*;>oM
r>>i_Nv&&cAE?gv]=(rhAID>vwXB;:S~7[kq!^JGP%!8w>mmvsLRi51V$<0iL<pp0[Fn%./iB/Pk8R:xtNK+%0^hDbo^0LP@FAOD
<hl=Y8h>|jTP5$I;C@A;U.cSv*vRVQS&E+JRbVqc+1Z]d?%(IsqmyMGH(zPZ(lL@r%a,JZ0m;Wy(-N=0,,o!*+SH*H5;RW'|B]R;
DguoUY0Prg_Q@D:HSC1hB~3!YiKK>al7tY03hYGTv(A!PsBcJn5<Yj0^'hQ2*U4@%i:IhfRntKdKNTC^cPA?xHmcK-$SV0|<83wR
AUiI:lZ,FOaUT[SQZ/C(/g|aDS.Gd8]7'pD1kfbxG.XK~T7PGeG((29=qM@F56l1rqR*1o=OwC9N-qL@T&jP'rlNQKL1k7Z,bdh4
ZAYJO>VZr[SSmI]Lmz*]t$pyCA@j-Xb?7MDz/zp?e?O!zIGaxj;ADkXke]9%J(V7VK)1ak9%uw_yY-bc%ZfbhY&Fy5_.:=e1k&:w
rQrIo0~j5Ot~,5FSC!r,-WW$TKyr@pDliZDx4BAm2v:L/k~5O^jUk[?gm$|FE5MtEg<cbzJA;UFwyx|xsCU>,q9dmz~s/'=7*=~b
x_<GUk%ms1=&hZtG3q_@3L3(6dw5.iNmTvlEUL2'TyR.keU^%YgW|!m+BDlo(LSee1fvYYDe+C/-!JbAbj*trr)g+2/V@e;VblX)
kk^O<t=|mdNttIAm''6,C2ED-!r98;&IS5/_o<^nb;I%t:*%;*gIhU+mr0REy%[BMDey_%+zNB>bv4N3R|BNFgqM/iETyfU8&a!P
yC5d8/8Mkacy6Bf2Z(Mn!jx6()5'hFd989QjW6y>dVXELb!%0BN2VGM5n5k3a+y(Dd|CT<[Rl)Y%80st*T619ji7+e1o<xg(qmrr
|Ji&/AWWZ%Q7/iC(<Z(Ec'T5x1.u)ddw-RUDmiSi-cHfP*9Qag|4!GWZ9?_ilgxvQGV3;KvG_eH0)$7Y/2<j<YZ)gy2/f5NEW9^E
Wm]w^g8?l)F?yZZ]FN_!)TTo>TIen]vXLf&ppzS079%xldGS3U4:BRA$E1$HN5yne-<~)A0i:TK'Ac~+(m]<s$[rIDOv<N)T?N$E
g%fCY.&-fF$IOpU57A7H.(h%K<)RB|-7Epnw)VfU1DXt?NwDQ9iIP!bS%uA.H8g!Fi2Tl^4PqKi)ORAh_LN3W1E8dE5_[9e%@W+t
a|sK4=/dJCeRR.Fr:$iTW!X7lui(+@916vk7LnXQytiKD/vpc/?d;e_Lyv.iGnB)Yw]@c~MGDv~@!hqad;TN-3vV~1*Xgx;T@sL>
Z$ITj9ipA3^<]bn_:J=XMb/5JL4pX5(~AL)k[=5WvsfmK0+.!,4Ofr,?%&^Iz=|KKgVia+&oY)C:)p)6f%_goz~xcDa^sn7XgWVd
v-0'Erf83($_V,r(c-1k6>fd^rT.nE|B&fUdTt3mLq6.O)PL>do^ovdcD~!7cGXb9bxBckO5E)01)Ey>V|jp:ABgk:DL^BKyN?Pl
N*bB4N,=xt[,'A:k/I9sWS4q[x=U~Mu;PSW=8zvc6Z8^^HKkrA6:;.YvxG)?;I*hj]d]UdoG~Qt?&D0Rgc.2Gs/FLu$DA0Hz-g.H
^suy-B$jrb$MKM_&[BMcw:|go<M+RXl%m(s4+'r|94+]?HJcAEH@5nnt/Ij99%Hh;==YeKI(o05r8Tkp@g=/D!Um|d*%(aAoF'Yf
sxlDat%o4X7,&l'WDaWic~-7Pvv7>LpQcb'Y7R.Rka:|Ub/awFLpb!>$MXJ.LhdW(i!Ksp|76pC9>K8u3B!s3~HIXX$]VxgG/XkV
2|D>=_rZo68.^4%.37j|.p.>YkJO>rl+uz9KmR?D70%0E,h92td3lr6<NhA>1-ht*@GI-J)S^nB$J|AGo-zukHpGN9SZ+u4p4tx=
Ik!to<6|/$N1QgrOiR:tNAu_I6ILOS[^S+5j_*nR_gUkxD6An)-4@My[?p=66t%:g?H]RP=<k-N~oW>ko1?Ze&i.cN>O?ja9.hSU
xW@v*<ylk$4U-J;oq_W+5OEm2Plb=r*qC7Ju,Z[]srWW0DLho!QI@+/YS,19:5SCie:U4WXNO4@GLH|w/AR_:jMQ+n]kv|Rc&q<c
xe[vfW8klA;0yX7O(Q:h&$CtiJ)OTooOn|ZIA&r_LHD$+WhjRFArHlR5-9e%A5Ff_QUx&@e(|l_$Z,JqTus^!fzQiM>E89FQ/:[-
<-&/<5j_A>NY:;979t.F^PjungX'3hegqb/K;%<[A>*gestEh(,JhiIJkfW(xoV*TJrgO4PcH;3L<-5rvlv6VAIULo'@x*F|CUm7
E>YI](wfV,~&@:-?B^>JhevM|$!f,2.=$K!uG>$-;m+>DB--dnu8cj+z>lzM&4NM&VK@@/h7A?5nOgd@$(&-q)a*aCb5of|JMsYI
Yq[*?!qEaF<j6s(UeGla<H1S_;s9T?9LH.c=-3Kgt-[Il^E|DLEo_i0l.IDs)-v9~E6koWQg_[+X,?NdKJhHFf4;!rWcui2]+qWL
OX)1J+J@GCN1FK'(A0t&MFAPlLp5?ckCL%HZZfS?XlQRU&VA(hbO?oSExF3h&/H*Sx]OX&SE,,do.ErWQsL]%Ij]dH5h>TD5fdUr
ZGnx$qZ~ID)J.]uoo!B@?wee3,cg:.NCT~8b9:>t^.(bx,YGbRdZz5OE/_YSGGQxs==VC+ic!2?_~H5=)2$z3b^H4Zl(?@GHlvbH
a-[(=V&vyzdP<'gOH8_293wQpJJDg|v<o^THD<_qFD+f&=E8i7s;+MFvit:8SFm4j4mAB&y9yp;/t5:t69>F_rxRbM5y[D?5cL:R
lB@6hkEc.+k6>mmBRrDQAQZXwx5=G>0hGZ;ok-s4Fr]4A@2gDm~R^cZ~?QWMKr5UXQJ5oTOsO)t60gM9|0i:sM:5+=-.YZY)cv[$
(A3rXB9p.%A[hX$+F[*l|Q00.&O,@e|K8JSir2N1|]+5,3f&z,0)*u/q8yG$xEL.<[O_Pc/YA%;.HUkDZptQWV-dnRltlvd(Hd?!
7C&.a6Yo[R0)>Yoy]/*.iZQJ_.<qO|s>*a%QYNGRu(UwzX>D73wUkYHDp*y&kHL?=MRy&(YEr3VP*a$;vb-4H((6qVNBcyGy<93,
pp'1XPop7]|~rzV5qOfClWd8+Hz0Gbvj/0(YvtY;sEVJGT[Gp%Sh[T-YKz&diS+)eolFNrh.3b?B01FdgQ]=8ri[hh'UoX(pF(e)
TIN?YzZB*?*C[E:(qog>>[s5HzXR3+i6(2yDzQ7.;KI4gZ,CJ7N99jQ<zKjdn?*-y:,NGSt~ccorVB%m',J(fR=<UveSl[i$@3;e
W1rth$En^Q+Ou1[gLSV[i:L10pz5'uottJWh'<PrZ4FUybO,x=_t+3zYn4sG03>*0sr$I6j^9|*MKTe=nSYA:a0W<C=[uy'|K6op
yZQVzU?<^o^6KqgB!J1%A+]0-dXnLxy%w;,n2Ea/AMN=bmLhQjs~r&C~~UB(OcHQab'p~_;*eBgPxViCM1?Q@V[ZF<+p;;[xF3j.
6AL^HSEYXSV*'A*wMNJ'h3Y@OE)gYFIpG5KBg.Qo&070Go|Vz]hPQ<8&6KV:;l?TFMZ!^SF*I1.k0gRCRz=j0>g[8*eltp&@[rfz
;7?D-&]_?!/%6x|:;.%:qUPm,BXHqsT0Mg%oB)[nBo(aag-|i<:o%jWEkdKCaCttT:s||b9B(8|Q|$)dL&s-DJumpc;;G5HigM[j
*@+Y(J[.9z:i0Q,oxbsSvks4>&n~Y9.G$wD<fyq%o3(8N3*+zTS5e>10^YL5LiSv0.hEg8pv6?_Uy'KD:/p5f'V|F,(x?5Byum*d
<tpss2Ra8Rk@CgR:=ufJcKQ>8|KWXq<uh'NLIHX.iGP9uIgWwU*_jX*P.GDglP@gw!=H7@w_qd9J]A,zUt5fn!dIvWb,wxtSJT'i
?%xVLcl6K.Np^k_y&KJIZ~$:_A~!<H2].8DpfH_b<!pCVw/+zlE2rh=%)A-fxr:&d|?CZOIKpYWsA99:,;u8M2G-Sytn?3ed|i%t
&nEmQ3.j_C.MsooefG7z!E5g+LVM*fA]K)c]dF>NcAJ0m(:ZplG1CUcO.@vSzW!4SPCg==<T]21C4e=xaZ>HimfPzJcS^ZaPcxc3
j^Nn/d|DamAI7w;!d-q8hV0~?GFFU<qEb-EPDd1!^aFvlQt|uIe[sc[Ye&Xnu/@I@vC+,&%m(Fm&kVr!BWn+_8:.NOqtg>w|-rI@
=ENLyzIEv15$boG5_WJG1zbR9uN=ZO$*9/nXX'b)4M~.xIqiiO~YB<7di)|VIqH921>?<eKC)<mV-Pa.v>!HNLX5mOxnyQ22S>iS
&>neA/ldTS.V2RuRBY7<odLR2GdYVu=Z[mgRfxQ6'1W9k+zu7El60vqhv9ibQFt7qw&<ARV<>dXg_'IU?*dAy6E9,^tS:8*+J3Vp
.ZRN'C7C%C]$.5CZ'Nv~1yTAX/J2Gb;TB'K@Y|%7F0Tfezi55[28dIwhY;+kmB%it&n[c^KQz5.n:WXm6&yO-E0.lHDFWiqI&6t4
Z$evzsqK=OGEjMUdtEu8|7+phSYGgd~&AsZ)LyP;ceF_,+&qudD2r&b~Z2~DTsyd;UavLG~~<aTn9XOoWfg_l-PxcV,+b.Mt?Nny
qTi~[wN$/B[/4Gc6pohV!4:s9q)4+a+KJgv*hri4,?L;c6L;sq/@Nlp77N9Xlw1Sx*<6QI5qjUhWiUe(NieoKd1)@ZeN;jVBKz9!
o;(JWXa2/o;B2*+YkqJ.x|zn:h)BcSLLVbd>G9_JHY|1,([TzpMwpb6Y+I&y8f<)ZZ&nZ!ZoVVqHeY<6+39rdt(_ACY9y-oL>C>8
%O(59;3KO][fe(jOpuzGFTA>Jcx-Cqq&*9ibrJ,Qb)~j9pP%XaGS~m++%3?lQ*@THPXTw&@IEi+zVamT~)1uvZD)d77T(c)tjsmk
G6X/,pfc^O5'&19|peF2vC~?7))m-G5Ot_46TbZhA)'PzgJ.?/mN;~&HK1KxD3yrmu:YMF'A&~/P>w-!vBAMw)baIUHEw$DJ<_ab
0rl%wF*z/[NA)-@li:T<HS,(gxiAJ*Ff;_Wy*C-SasL-Y:%eXXurhxwgEM^Ap>5Jb$Dbo)-?uEK(/1pX&^]M,/aH4DskQ^2L~zo|
.'~8?ZJ-X04n4&eEt^39JH<0G;1cj%-8j075)U]OM2Fc@g2%b@Y0feMU0ledjjqYvTQf0(pMdxmyePQ/9yhqk6|MxiY4&rGY%^AT
p.KWnr:_gGI/6W5<kQLIk8Xx%,|v'/|>fcAG8_g&z5CdrT^W?+Z/-GMcY9pYO3h:p:x6J~W!9p!9^pv7xA^:g5<K^CtFN7rd?z$=
,.HV?T;fcA)VXYjK)LaGJo^tKk:g:kWaCjF:l*QTWxq]7src~rka9c(U3|O;ip-S81ZTeTfLii/6]~[_&506$puV</2Q(DJK$mMm
jL-mdAT(ajBcVF9)E=s11r0'*Zp^7!mie%~>%vU&h9>O&4J>^znjwzIOr7aykrTh'p%6*Ite~;9/bcUUfVV(M|@~z%JXT6Rqv8Ko
8_>dT%<Z0,Xl>OT>rZsCrdfZHhT,&k@)kFNvPI;^a7JKtEfQ,]N7'0eSc*,:'8mX4x%&Wd^jWmd|_$0wZ~h0DV6C7/R_$]>Mj0x6
ND1v=,:A>CLu%jbMnW7u)?P$86]~P58q3M3gY,TUrqi0cti4D:=pX*|_Gc4$ECN*heioq/PY+Tul60JR40zw(6h_vSf)U]L]+c!%
V_R3HA/P(@cMsbeQ9>7O,A!W_<>??&3:=d3|,l3S4|6ab(NWE0)k73iW^VTeZ~uB;!LIi?Z3Zz.^g9'sRP;[s.D:33VBTm*<zAWW
WR6(OHX8r2x'W^@-KSMtL2LA(v6|sb+sPMzihTYuuC=MwffTwE>bDuT%Zb$_Fl|ED0dIj!/;nAEqvVfzaRy!1enzPS1*B_cX&SWT
n~C5K&t-fG5:1|;Hn4-mA6)svZKJ!e@E:at+2~W,wmyvCxB$>?EAc_r*cCv=QG&x;j5Yi>|bU^8|:YmNh!RwoI7X'hKG/CL)0y]t
Wg.~yh6>:BKt?elchuK_vJ7Ad|nN:8LHc+$y;j^0ZA)Kz$(R)W4sr/!GKT,/F5QUOI<OKDc[BH6^$Cyc!>g2&)<pJ:!5B9V|bXCl
m<L~8Z=%hi&qjbi~D7,O]D$]e4k>bm9:]<m%-o*Unco5F[ZBCie8xrTIe+SEagU@~@hkqao+pTc>v^@5L?gX,'VTNbGA~I+$c+GN
8@&T!M[;Jb<i:AQXp|>eG@RXg$HUrkq[e]9VNs9exZa:-.kyVIlrfL&v&%$huEd+!Qi.1[WHSf)Lh(n<>;y,F7WyK.rNlc.$Ti[)
/GM?0SCD'gA]H^~y/t0LsG:?CTc?q)@.G5=D*'BTQ,$h<DtFA=SM'-mI7)ZL^_hx|Vho=y49W'oz^sXAAPX4SDf7gG]>P</@GA'-
n7(_kBVXOX==/Z?2'FLujkrhs^kk6EGr1zrR72l,)tb<VzmK5]'Kv+C%Q[4KV@yb,zOoC6ABp:%s:CgO1<@a~^(K0b<MVW?rWa'A
2q.)K[Wq:dYKDThRb<6WNvq+-aCbU5VM[>:;_'jiZ>[0jYA_00?(wtyU^xW-H'.XrQIv=gTlm1=<URuR?RF!.|@8cSX(G&()e7eg
7=z5+5aTP|?fC|EOJc=zYO|eJGZgW0eg(seZh%R=U,h^h::T6O@O4F;Tw1;pfWdf_2ufy$eE4vTvy?n(W~s(>73bz_A@esoV(aVZ
c-FXFsAHY70ke-lfjGsTI2WDDAX:[FYq-li^0)/Pt6;&U2_yiZ&AqK@f1sAR'XJNZox_549+YBEDa<s5'tn,!re!x[uWVv*l.hIL
>NIp,![o_=XbIM4c3Icm2N]uLPPege4r],7Ij|K^f1Q:Jor*:UEClnrz=ItQqxy656=>bja$mh3~55R6t^nEt(B;A5$V'1o_1rAy
z)]nW$=iR_b|h$=Ni(i4G-R:~[m>r.%9.6e=nQO~CnTj)e|z7H:KJW1Us[V8%6=R+%3B$urt71GX]=b%KNV<'ODcO&02YVFZnS2x
|e6M=_+lvtU-v4W?Z4%jjqCV/><iAYrANmg[)Wj)5nNQ['?RDsFV*Q1/F]MWgJ|Ewli|*=cR'1lTm@2<(Y;cLg.Q=(7Y-?.b)0Uq
r+?[er%J*E/GK3ONCSv0JiJ-y9Q7t0-.4rO+c0!qG)LBF|Z4;A5z_q051vta?Y(G3+l%O^L(C<LrYw8xDSZO~-@ZOC)jTu4.N2_k
7+2VFi*7az8e6]m4[PfUp>JITjf|-^42CL[E_cj,]0UO(UDw]%qQ$3'FFsg0Hhayw(y-O5rvM9;SK$=F+qDI%O/iFiP)OC(PA<N4
C[LBdLwAzd,RzE*HrF)^IF%B-RsOwk89hQkrT+<jm=-.IJpX<7'<eyu_:!qXHZRAjyuKY(Z@Iw*(R8gD+HFwEuY@i,V$S<mmueYD
~s'W-J&lN=|,cj@oS]]<yVwFup(%Fx2$OfAaX1aBU|/Lhc8w(qrA!*Q6IRWQHcnZNx?vh-'nk)6/%xa+sLWsYX~dv?0o$x7T2-zD
pY-Gmq9OFa+:d5W~2yC-[LXeJV10P&(;'*jMeVhUs;Oa7ONZD9OgZ!~7d7GUI<0w-1k.A=],JjHgS?gy/lf,k^?FIj]I)WMbTqB7
2y>eBQkj5]PXFq1jGE:bBk=PqX:MyNUrBL><?:&,8csKGO3YSt/WNWn+]WPWo3K(k.)a.a5d>gLGZWa~X]o&V11K.Ai4tUlslVn0
8w/O@EHyh)EMF_uMhkAXcJGCf9sJG%)mz$9KfJdko-SQn;7B?XDJ6Y&<Jc3nDsn+C;yK2)O0EX+ft>YZsrQ1[FKOeV9q)2Undytj
>j=fpEc0MJxIz](!~^t]lMKHQpiG&Su:*:+!.A^v+Lhu6G]7wt4HxRB.=4p707T^];db.<9caZu3TN6IFe2,ajLV|a4%76R*WX(K
jQ7WR!m8z,.1)e<Q7f8&8-@6N9QL$E_e2%4SEW@02=p-vA>J$sxt;ZPfQ_J;qP0e3zF1rWpsxc1V$vGB_NHJ3uodcO:;,-/!oaQ4
jNB/xPLCI-bkeiG,FI/$w;dRpkI/[&-IQ;flQ^sw<a=<7f9|%~>ASI>eb%|q4yjgqJO6*_n]+X@_GKWujlqkPI2-n),CCzVIRFgZ
._WV<c,Jif4Yy7/X4fXM,Z@f$z=KSNu5*45:sJ!Ej9ric@eqAu1R~Kb9haZYY&Fs@G$rDl(kj2n,w9<|r=)HA/MKeBat.&=h'l4e
EU67Na8C*5NT)n>w5/e1=Qa*=bD8$yPEnN[3PX-sdMF=i9pk?9RGk=%!k"

def tables : List String := (Packed.unpack packedTables).splitOn "\x0c"

/-- Decompositions, each on a line: the distance from the code point before it, and its parts. -/
def decompositionText : String := tables.getD 0 ""

/-- Runs of characters with one canonical combining class: distance, length less one, class. -/
def classText : String := tables.getD 1 ""

/-- Characters that their parts compose to. -/
def compositeText : String := tables.getD 2 ""

/-- Characters that may begin an identifier, those with the property `XID_Start` from U+0080 on. -/
def startText : String := tables.getD 3 ""

/-- Characters that may continue an identifier but not begin one: those that have the property
`XID_Continue` only. -/
def continueText : String := tables.getD 4 ""

/-- Characters that a quoted text writes as an escape: those from U+0080 on whose general category
is "other" or "separator". -/
def hiddenText : String := tables.getD 5 ""

/-- Control characters and combining marks take no cell of a terminal line. -/
def zeroText : String := tables.getD 6 ""

/-- Characters that take two cells. -/
def doubleText : String := tables.getD 7 ""

end RobotKit.Text.UnicodeTable
